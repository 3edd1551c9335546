import RecordSql.Proofs.Declaration.Marks
import RecordSql.Proofs.Scan
import Mathlib.Data.List.FinRange
import Mathlib.Order.WellFounded

/-!
# What scans leave in a record

A `RowType` is a declaration together with the types of its fields, and a record of the type holds a
value in each of them.  A scan gives the stored fields what the row holds for them, up to the first
that finds nothing it can read (`scan_of_found`, `scan_of_failsAt`), and never touches the others.
So after any number of scans, whether they failed or not, the fields that are not stored are those
of the start, and a scan that succeeds leaves nothing of the earlier ones (`scan_scanAll`).
-/

namespace RecordSql

/-- The record after a row is scanned into it. -/
def Entry.after (e : Entry) (row : FetchedRow) : Entry :=
  (Record.scan e row.reader).record

/-- The record after rows are scanned into it in turn. -/
def Entry.scanAll (e : Entry) (rows : List FetchedRow) : Entry :=
  rows.foldl Entry.after e

namespace Declaration

/-- A declared record type with the types of its fields. -/
structure RowType where
  name : String
  attributes : List Attribute
  arity : Nat
  field : Fin arity → FieldDeclaration
  type : Fin arity → FieldType

namespace RowType

variable (T : RowType)

/-- The declaration of the type. -/
def declaration : TypeDeclaration :=
  ⟨T.name, T.attributes, .named ((List.finRange T.arity).map T.field)⟩

/-- What the fields of a record hold. -/
abbrev Values : Type :=
  Fin T.arity → Value

/-- The record with the given values, stored as the mapping says. -/
def record (x : T.Values) (m : Mapping) : Entry :=
  m.entry ((List.finRange T.arity).map fun i => (T.type i, x i))

/-- The field of a record with the given values. -/
def fieldOf (x : T.Values) (i : Fin T.arity) : Field :=
  (T.field i).mapped.field (T.type i, x i)

/-- The fields that are stored, in order. -/
def stored : List (Fin T.arity) :=
  (List.finRange T.arity).filter fun i => !(T.field i).isSkipped

/-- Where a stored field stands among those that are stored. -/
def place (i : Fin T.arity) : Nat :=
  T.stored.idxOf i

/-- What a stored field finds in a row, if there is a value at its place that it can read. -/
def found (row : FetchedRow) (i : Fin T.arity) : Option Value :=
  row.found (T.type i) (T.place i)

/-- The values `x` with what the stored fields before the `n`-th field find in a row. -/
def filled (row : FetchedRow) (n : Nat) (x : T.Values) : T.Values :=
  fun i => if (T.field i).isSkipped = false ∧ i < n then (T.found row i).getD (x i) else x i

/-- The field `i` is the first stored one that finds nothing it can read. -/
structure FailsAt (row : FetchedRow) (i : Fin T.arity) : Prop where
  isStored : (T.field i).isSkipped = false
  missing : T.found row i = none
  before : ∀ j < i, (T.field j).isSkipped = false → ∃ v, T.found row j = some v

variable {T}

/-! ### Fields and values -/

section Values

variable {x : T.Values} {row : FetchedRow} {i : Fin T.arity} {n : Nat}

theorem isSome_plan_fieldOf : (T.fieldOf x i).plan.isSome = !(T.field i).isSkipped := by
  unfold fieldOf FieldDeclaration.mapped MappedField.field
  cases (T.field i).isSkipped <;> rfl

/-- The stored fields are those that are not skipped. -/
theorem storedOf_fieldOf (is : List (Fin T.arity)) :
    storedOf (T.fieldOf x) is = is.filter fun i => !(T.field i).isSkipped := by
  unfold storedOf
  congr 1
  funext i
  exact isSome_plan_fieldOf

/-- A skipped field keeps what it holds, and so do the fields behind the first failure. -/
theorem filled_of_isSkipped (skipped : (T.field i).isSkipped) : T.filled row n x i = x i :=
  if_neg fun h => by simp [h.1] at skipped

theorem filled_of_le (h : n ≤ i) : T.filled row n x i = x i :=
  if_neg fun hi => Nat.not_lt.mpr h hi.2

/-- A stored field in front of it has what has been found for it. -/
theorem filled_of_lt (isStored : (T.field i).isSkipped = false) (h : i < n) :
    T.filled row n x i = (T.found row i).getD (x i) :=
  if_pos ⟨isStored, h⟩

/-- A field before the `n`-th takes what it finds. -/
theorem taking_fieldOf (h : i < n) :
    (T.fieldOf x i).taking ((T.found row i).getD (x i)) = T.fieldOf (T.filled row n x) i := by
  cases hskip : (T.field i).isSkipped with
  | true =>
    rw [Field.taking, isSome_plan_fieldOf, hskip, fieldOf, fieldOf, filled_of_isSkipped hskip]
    rfl
  | false =>
    rw [Field.taking, isSome_plan_fieldOf, hskip, fieldOf, fieldOf, filled_of_lt hskip h]
    rfl

/-- A field from the `n`-th on is the same. -/
theorem fieldOf_filled_of_le (h : n ≤ i) : T.fieldOf (T.filled row n x) i = T.fieldOf x i := by
  unfold fieldOf
  rw [filled_of_le h]

end Values

/-! ### Places -/

section Places

variable {is js : List (Fin T.arity)} {i j : Fin T.arity}

/-- The fields before a place of the list are those with a smaller index. -/
theorem mem_before_iff (split : List.finRange T.arity = is ++ i :: js) : j ∈ is ↔ j < i := by
  have hsorted : (is ++ i :: js).Pairwise (· < ·) := split ▸ List.pairwise_lt_finRange T.arity
  rw [List.pairwise_append, List.pairwise_cons] at hsorted
  obtain ⟨-, ⟨hafter, -⟩, hbefore⟩ := hsorted
  refine ⟨fun hj => hbefore j hj i List.mem_cons_self, fun hlt => ?_⟩
  have hj : j ∈ is ++ i :: js := split ▸ List.mem_finRange j
  rcases List.mem_append.mp hj with hj | hj
  · exact hj
  rcases List.mem_cons.mp hj with rfl | hj
  · exact absurd hlt (lt_irrefl j)
  · exact absurd (hafter j hj) (lt_asymm hlt)

theorem le_of_mem_after (split : List.finRange T.arity = is ++ i :: js) (hj : j ∈ i :: js) :
    i ≤ j := by
  have hsorted : (is ++ i :: js).Pairwise (· < ·) := split ▸ List.pairwise_lt_finRange T.arity
  rcases List.mem_cons.mp hj with rfl | hj
  · exact le_rfl
  · exact ((List.pairwise_cons.mp (List.pairwise_append.mp hsorted).2.1).1 j hj).le

/-- The place of a stored field is the index that it has among the stored fields. -/
theorem place_eq {n : Nat} (h : T.stored[n]? = some i) : T.place i = n := by
  have hnodup : T.stored.Nodup := (List.nodup_finRange T.arity).filter _
  obtain ⟨hn, rfl⟩ := List.getElem?_eq_some_iff.mp h
  exact hnodup.idxOf_getElem n hn

/-- The stored fields at the front of the list have the first places. -/
theorem place_eq_of_split {n : Nat} (split : List.finRange T.arity = is ++ js)
    (h : (is.filter fun i => !(T.field i).isSkipped)[n]? = some i) : T.place i = n := by
  refine place_eq ?_
  obtain ⟨hn, -⟩ := List.getElem?_eq_some_iff.mp h
  rw [stored, split, List.filter_append, List.getElem?_append_left hn]
  exact h

/-- The place of a stored field is the number of the stored fields before it. -/
theorem place_eq_length (split : List.finRange T.arity = is ++ i :: js)
    (isStored : (T.field i).isSkipped = false) :
    T.place i = (is.filter fun i => !(T.field i).isSkipped).length := by
  refine place_eq ?_
  rw [stored, split, List.filter_append, List.filter_cons_of_pos (by rw [isStored]; rfl),
    List.getElem?_append_right le_rfl, Nat.sub_self]
  rfl

end Places

/-! ### One scan -/

/-- A row has what all stored fields need, or there is a first one that it fails at. -/
theorem found_or_failsAt (T : RowType) (row : FetchedRow) :
    (∀ i, (T.field i).isSkipped = false → ∃ v, T.found row i = some v) ∨
      ∃ i, T.FailsAt row i := by
  by_cases h : ∃ i, (T.field i).isSkipped = false ∧ T.found row i = none
  · right
    obtain ⟨i, ⟨isStored, missing⟩, least⟩ :=
      wellFounded_lt.has_min {i | (T.field i).isSkipped = false ∧ T.found row i = none} h
    refine ⟨i, isStored, missing, fun j hj hstored => ?_⟩
    exact Option.ne_none_iff_exists'.mp fun hnone => least j ⟨hstored, hnone⟩ hj
  · left
    exact fun i isStored => Option.ne_none_iff_exists'.mp fun hnone => h ⟨i, isStored, hnone⟩

/-- A scan fails at no more than one field. -/
theorem FailsAt.unique {row : FetchedRow} {i j : Fin T.arity} (hi : T.FailsAt row i)
    (hj : T.FailsAt row j) : i = j := by
  rcases lt_trichotomy i j with hlt | heq | hgt
  · exact absurd hi.missing (Option.ne_none_iff_exists'.mpr (hj.before i hlt hi.isStored))
  · exact heq
  · exact absurd hj.missing (Option.ne_none_iff_exists'.mpr (hi.before j hgt hj.isStored))

/-- The fields at the front, each of which finds its value, take these values. -/
theorem scanFields_front {is js : List (Fin T.arity)} {x : T.Values} {row : FetchedRow} {n : Nat}
    (split : List.finRange T.arity = is ++ js) (front : ∀ i ∈ is, i < n)
    (found : ∀ i ∈ is, (T.field i).isSkipped = false → ∃ v, T.found row i = some v) :
    Entry.scanFields (is.map (T.fieldOf x)) row.reader =
      ⟨is.map (T.fieldOf (T.filled row n x)),
        ⟨row, (is.filter fun i => !(T.field i).isSkipped).length⟩, .ok ()⟩ := by
  have hfound : ∀ k i, (storedOf (T.fieldOf x) is)[k]? = some i →
      row.found (T.fieldOf x i).type (0 + k) = some ((T.found row i).getD (x i)) := by
    intro k i hi
    rw [storedOf_fieldOf] at hi
    obtain ⟨hmem, hstored⟩ := List.mem_filter.mp (List.mem_of_getElem? hi)
    obtain ⟨v, hv⟩ := found i hmem (by simpa using hstored)
    rw [hv, Nat.zero_add, ← place_eq_of_split split hi]
    exact hv
  have htaking : (is.map fun i => (T.fieldOf x i).taking ((T.found row i).getD (x i))) =
      is.map (T.fieldOf (T.filled row n x)) :=
    List.map_congr_left fun i hi => taking_fieldOf (front i hi)
  rw [FetchedRow.reader, scanFields_of_found hfound, htaking, storedOf_fieldOf, Nat.zero_add]

section Accepted

variable {m : Mapping} (accepted : T.declaration.mapping = .ok m) (x : T.Values) {row : FetchedRow}
include accepted

/-- A record has the fields of its type, in order. -/
theorem record_eq : T.record x m = ⟨m.table, (List.finRange T.arity).map (T.fieldOf x)⟩ := by
  unfold record Mapping.entry
  rw [TypeDeclaration.fields_of_mapping rfl accepted, List.map_map, List.zipWith_map,
    List.zipWith_self]
  rfl

/-- A scan of a record goes through the fields of its type. -/
theorem scan_record_eq {y : T.Values} {r : Reader} {outcome : Except Fault Unit}
    (scanned : Entry.scanFields ((List.finRange T.arity).map (T.fieldOf x)) row.reader =
      ⟨(List.finRange T.arity).map (T.fieldOf y), r, outcome⟩) :
    Record.scan (T.record x m) row.reader = ⟨T.record y m, r, outcome⟩ := by
  rw [record_eq accepted, record_eq accepted]
  show (let scanned := Entry.scanFields ((List.finRange T.arity).map (T.fieldOf x)) row.reader
    Scanned.mk (⟨m.table, scanned.record⟩ : Entry) scanned.reader scanned.outcome) = _
  rw [scanned]

/-- A scan in which each stored field finds its value gives them these values. -/
theorem scan_of_found
    (found : ∀ i, (T.field i).isSkipped = false → ∃ v, T.found row i = some v) :
    Record.scan (T.record x m) row.reader =
      ⟨T.record (T.filled row T.arity x) m, ⟨row, T.stored.length⟩, .ok ()⟩ :=
  scan_record_eq accepted x <|
    scanFields_front (List.append_nil _).symm (fun i _ => i.isLt) fun i _ => found i

/-- A scan that fails at a field gives the stored fields before it what they find. -/
theorem scan_of_failsAt {i : Fin T.arity} (fails : T.FailsAt row i) :
    ∃ e r, row.Refuses (T.type i) (T.place i) e r.remaining ∧
      Record.scan (T.record x m) row.reader = ⟨T.record (T.filled row i x) m, r, .error e⟩ := by
  obtain ⟨is, js, split⟩ := List.append_of_mem (List.mem_finRange i)
  obtain ⟨e, r, hnext, hrefuses⟩ := Reader.next_of_not_found fails.missing
  refine ⟨e, r, hrefuses, scan_record_eq accepted x ?_⟩
  -- the fields before `i` are read, the one of `i` ends the scan, and the others are not looked at
  have hfront := scanFields_front (x := x) split (fun j hj => (mem_before_iff split).mp hj)
    fun j hj => fails.before j ((mem_before_iff split).mp hj)
  have hstored : (T.fieldOf x i).plan ≠ none := by
    rw [← Option.isSome_iff_ne_none, isSome_plan_fieldOf, fails.isStored]
    rfl
  have hends : Entry.scanFields ((i :: js).map (T.fieldOf x))
      ⟨row, (is.filter fun i => !(T.field i).isSkipped).length⟩ =
        ⟨(i :: js).map (T.fieldOf (T.filled row i x)), r, .error e⟩ := by
    rw [← place_eq_length split fails.isStored,
      List.map_congr_left fun j hj => fieldOf_filled_of_le (le_of_mem_after split hj)]
    exact scanFields_cons_of_error hstored hnext
  rw [split, List.map_append, scanFields_append_of_ok hfront, hends, List.map_append]

/-- A scan leaves a record of the type, with the fields that are not stored as they were. -/
theorem scan_record (row : FetchedRow) :
    ∃ n, (Record.scan (T.record x m) row.reader).record = T.record (T.filled row n x) m := by
  rcases found_or_failsAt T row with found | ⟨i, fails⟩
  · exact ⟨T.arity, by rw [scan_of_found accepted x found]⟩
  · obtain ⟨e, r, -, hscan⟩ := scan_of_failsAt accepted x fails
    exact ⟨i, by rw [hscan]⟩

end Accepted

end RowType

end Declaration

end RecordSql
