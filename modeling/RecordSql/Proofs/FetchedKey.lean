import RecordSql.Key
import RecordSql.Value.Field

/-!
# The kind of a fetched key

A fetched key is taken in one of two ways (`coerceFetched_eq_ok_iff`): a text or a sequence of bytes
stays as it is unless the key column holds a fixed-width integer, and an integer is narrowed to the
kind of the key column.  The key itself is never changed.  Its kind is that of the key column if it was
narrowed, but what stays as it is keeps its own kind, so a key column of any other kind than a
fixed-width integer may be answered with a key of another kind (`coerceFetched_kind_iff`).
-/

namespace RecordSql

/-- What a key is, whichever way it is kept. -/
inductive Identity where
  | integer (n : Int)
  | text (s : String)
  | bytes (bs : List UInt8)
deriving DecidableEq, Repr

namespace Value

/-- The key that a value stands for, if it can be one. -/
def identity? : Value → Option Identity
  | .int _ n => some (.integer n.val)
  | .text s => some (.text s)
  | .bytes bs => some (.bytes bs)
  | _ => none

/-- Whether the value is a text or a sequence of bytes. -/
def isTextual : Value → Bool
  | .text _ | .bytes _ => true
  | _ => false

/-- A value is a word of 64 bits exactly if it is an integer that fits them. -/
theorem word?_eq_some_iff {v : Value} {n : Ranged .i64} :
    v.word? = some n ↔ v.integer? = some n.val := by
  unfold word?
  rw [Option.bind_eq_some_iff]
  constructor
  · rintro ⟨m, hm, hn⟩
    rw [hm, Ranged.ofInt?_eq_some_iff.mp hn]
  · intro h
    exact ⟨n.val, h, n.ofInt?_val⟩

theorem identity?_of_integer? {v : Value} {n : Int} (h : v.integer? = some n) :
    v.identity? = some (.integer n) := by
  cases v with
  | int t m =>
    obtain rfl := Option.some.inj h
    rfl
  | _ => cases h

theorem isTextual_of_integer? {v : Value} {n : Int} (h : v.integer? = some n) :
    v.isTextual = false := by
  cases v with
  | int t m => rfl
  | _ => cases h

/-- Texts and bytes have an identity of their own. -/
theorem exists_identity?_of_isTextual {v : Value} (h : v.isTextual = true) :
    ∃ i, v.identity? = some i := by
  cases v with
  | text s => exact ⟨.text s, rfl⟩
  | bytes bs => exact ⟨.bytes bs, rfl⟩
  | _ => cases h

end Value

namespace Kind

/-- A narrowed integer is still that integer. -/
theorem integer?_of_narrow {k : Kind} {n : Ranged .i64} {w : Value} (h : k.narrow n = some w) :
    w.integer? = some n.val := by
  cases k with
  | null =>
    obtain rfl := Option.some.inj h
    rfl
  | int t =>
    obtain ⟨m, hm, rfl⟩ := Option.map_eq_some_iff.mp h
    exact congrArg some (Ranged.ofInt?_eq_some_iff.mp hm)
  | _ => cases h

/-- What is narrowed to a kind has it. -/
theorem kind_of_narrow {k : Kind} {n : Ranged .i64} {w : Value} (h : k.narrow n = some w)
    (proper : k ≠ .null) : w.kind = k := by
  cases k with
  | null => exact absurd rfl proper
  | int t =>
    obtain ⟨m, -, rfl⟩ := Option.map_eq_some_iff.mp h
    rfl
  | _ => cases h

end Kind

namespace Key

/-- An integer becomes a key exactly if the kind of the column holds it. -/
theorem coerce_eq_ok_iff {key : Column} {n : Ranged .i64} {w : Value} :
    coerce key n = .ok w ↔ key.value.kind.narrow n = some w := by
  unfold coerce
  cases key.value.kind with
  | null => simp [Kind.narrow]
  | int t => cases (Kind.int t).narrow n <;> simp
  | _ => simp [Kind.narrow]

/-- A fetched integer counts as the integer, whatever its own type is. -/
theorem coerceFetched_of_integer? {v : Value} (key : Column) {n : Ranged .i64}
    (h : v.integer? = some n.val) : coerceFetched key v = coerce key n := by
  have hword : v.word? = some n := Value.word?_eq_some_iff.mpr h
  cases v with
  | int t m =>
    unfold coerceFetched
    dsimp only
    rw [hword]
  | _ => cases h

/-- A text or bytes become a key as they are, unless the key is an integer. -/
theorem coerceFetched_of_isTextual_eq {key : Column} {v : Value} (textual : v.isTextual = true) :
    coerceFetched key v =
      if key.value.kind.isInteger then
        .error (.decode key.name ("cannot use " ++ v.kind.name ++ " as primary key"))
      else .ok v := by
  cases v with
  | text s => rfl
  | bytes bs => rfl
  | _ => cases textual

/-- Any other value becomes a key by way of 64 bits with a sign. -/
theorem coerceFetched_of_not_isTextual {key : Column} {v w : Value} (plain : v.isTextual = false) :
    coerceFetched key v = .ok w ↔
      ∃ n : Ranged .i64, v.integer? = some n.val ∧ key.value.kind.narrow n = some w := by
  -- an integer becomes a word first, and that is narrowed
  have hword : (∃ n : Ranged .i64, v.integer? = some n.val ∧ key.value.kind.narrow n = some w) ↔
      ∃ n, v.word? = some n ∧ coerce key n = .ok w := by
    simp only [Value.word?_eq_some_iff, coerce_eq_ok_iff]
  rw [hword]
  cases v with
  | text s => cases plain
  | bytes bs => cases plain
  | null => simp [coerceFetched, Value.word?, Value.integer?]
  | bool b => simp [coerceFetched, Value.word?, Value.integer?]
  | float x => simp [coerceFetched, Value.word?, Value.integer?]
  | int t m =>
    unfold coerceFetched
    dsimp only
    cases (Value.int t m).word? <;> simp

/-- A fetched key is either taken as it is or narrowed. -/
theorem coerceFetched_eq_ok_iff {key : Column} {v w : Value} :
    coerceFetched key v = .ok w ↔
      (v.isTextual = true ∧ key.value.kind.isInteger = false ∧ w = v) ∨
      ∃ n : Ranged .i64, v.integer? = some n.val ∧ key.value.kind.narrow n = some w := by
  cases htextual : v.isTextual with
  | true =>
    have hnone (n : Ranged .i64) : v.integer? ≠ some n.val := by
      intro h
      rw [Value.isTextual_of_integer? h] at htextual
      cases htextual
    rw [coerceFetched_of_isTextual_eq htextual]
    cases key.value.kind.isInteger <;> simp [hnone, eq_comm]
  | false => simp [coerceFetched_of_not_isTextual htextual]

/-- **A fetched key stays the same key, and gets the kind of its column** unless it is a text or bytes
and the column is of another kind.  So it is the columns of fixed-width integers that can rely on the
kind of their keys, and no others. -/
theorem coerceFetched_kind_iff (key : Column) (proper : key.value.kind ≠ .null) :
    (∀ v w, coerceFetched key v = .ok w →
      (∃ i, v.identity? = some i ∧ w.identity? = some i) ∧
        (w.kind = key.value.kind ↔ v.isTextual = false ∨ v.kind = key.value.kind)) ∧
    ((∀ v w, coerceFetched key v = .ok w → w.kind = key.value.kind) ↔
      key.value.kind.isInteger = true) := by
  constructor
  · intro v w h
    rcases coerceFetched_eq_ok_iff.mp h with ⟨textual, -, rfl⟩ | ⟨n, hn, hw⟩
    · obtain ⟨i, hi⟩ := Value.exists_identity?_of_isTextual textual
      exact ⟨⟨i, hi, hi⟩, by simp [textual]⟩
    · have hw' := Kind.integer?_of_narrow hw
      refine ⟨⟨_, Value.identity?_of_integer? hn, Value.identity?_of_integer? hw'⟩, ?_⟩
      simp [Kind.kind_of_narrow hw proper, Value.isTextual_of_integer? hn]
  · constructor
    · -- of a text and of bytes, one is not of the kind of the column
      intro all
      rw [← Bool.not_eq_false]
      intro loose
      have htext : (Value.text "").kind = key.value.kind :=
        all _ _ (coerceFetched_eq_ok_iff.mpr (.inl ⟨rfl, loose, rfl⟩))
      have hbytes : (Value.bytes []).kind = key.value.kind :=
        all _ _ (coerceFetched_eq_ok_iff.mpr (.inl ⟨rfl, loose, rfl⟩))
      cases htext.trans hbytes.symm
    · intro fixed v w h
      rcases coerceFetched_eq_ok_iff.mp h with ⟨-, loose, -⟩ | ⟨n, -, hw⟩
      · rw [fixed] at loose
        cases loose
      · exact Kind.kind_of_narrow hw proper

/-- An unsigned key that comes back as a signed integer is narrowed. -/
theorem coerceFetched_kind_unsigned :
    let key : Column := ⟨"id", .int .u16 ⟨0, by decide⟩, some .generatedKey⟩
    let v : Value := .int .i64 ⟨40000, by decide⟩
    let w : Value := .int .u16 ⟨40000, by decide⟩
    key.value.kind ≠ .null ∧ coerceFetched key v = .ok w ∧
      (∃ i, v.identity? = some i ∧ w.identity? = some i) ∧
        (w.kind = key.value.kind ↔ v.isTextual = false ∨ v.kind = key.value.kind) ∧
      ((∀ v w, coerceFetched key v = .ok w → w.kind = key.value.kind) ↔
        key.value.kind.isInteger = true) := by
  intro key v w
  have proper : key.value.kind ≠ .null := by decide
  have hfetched : coerceFetched key v = .ok w := rfl
  obtain ⟨hsame, hkind⟩ := coerceFetched_kind_iff key proper
  obtain ⟨hidentity, hiff⟩ := hsame v w hfetched
  exact ⟨proper, hfetched, hidentity, hiff, hkind⟩

/-- A key of 128 bits comes back as the text that it is kept as, and stays a text, though it fits and
its field would read it. -/
theorem coerceFetched_kind_wide :
    let key : Column := ⟨"id", .int .i128 ⟨0, by decide⟩, some .generatedKey⟩
    coerceFetched key (.text "5") = .ok (.text "5") ∧
      (Value.text "5").kind ≠ key.value.kind ∧
      Scalar.readInt .i128 (.text "5") = .ok (.int .i128 ⟨5, by decide⟩) :=
  ⟨rfl, by decide, rfl⟩

end Key

end RecordSql
