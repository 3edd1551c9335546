import RecordSql.Proofs.Embedded.Laws
import RecordSql.Proofs.Embedded.ReadBack

/-!
# The stored row of a record

A row of ordinary columns is stored cell by cell.  The conditions of its key lookup are true of what is
stored (`isTrueOf_agreement`), and so is the condition on its key, so a library finds the row by either
(`finds_keyLookup`, `finds_get`).
-/

namespace RecordSql

open Embedded

/-- Whether an embedded database takes a row as it is: the names are plain, the columns ordinary, and at
most one of them is generated. -/
structure IsStorable (table : String) (row : List Column) : Prop where
  table : IsPlainName table
  names : ∀ c ∈ row, IsPlainName c.name
  ordinary : ∀ c ∈ row, c.IsOrdinary
  one : row.Pairwise fun a b => a.noInsert = true → b.noInsert = false

/-- The headings of a row that can be stored make a plain table. -/
theorem IsStorable.isPlainTable {table : String} {row : List Column} (h : IsStorable table row)
    (hne : row ≠ []) : IsPlainTable table (row.map Column.heading) where
  table := h.table
  names := by
    intro heading hmem
    obtain ⟨c, hc, rfl⟩ := List.mem_map.mp hmem
    exact h.names c hc
  nonempty := by simpa using hne
  one := by
    rw [List.pairwise_map]
    exact h.one.imp fun hab => by simpa only [Column.isKey_heading] using hab

/-- What the first row of the table holds of a column. -/
def Column.stored (s : Storage) (c : Column) : HeadedCell :=
  c.headedCell.stored s

namespace Column

variable {s : Storage} {c : Column}

theorem map_stored (s : Storage) (row : List Column) :
    (row.map headedCell).map (HeadedCell.stored s) = row.map (·.stored s) :=
  List.map_map

/-- A generated key is stored as the number of the row. -/
theorem stored_of_generated (h : c.noInsert = true) : (c.stored s).cell = .integer firstNumber :=
  if_pos (c.isKey_heading.trans h)

/-- Every other column stores its value by its declared type. -/
theorem stored_of_written (h : c.noInsert = false) : (c.stored s).cell = s.stored c.value := by
  have hkey : c.headedCell.isKey = false := c.isKey_heading.trans h
  have hdeclared : c.headedCell.type = c.value.declared := by
    show c.declared = _
    rw [declared, h]
    rfl
  rw [stored, HeadedCell.stored, hkey, if_neg Bool.false_ne_true, hdeclared]
  rfl

end Column

/-! ### The conditions of the library -/

/-- Whether a value can be stored and compared: it has a cell, and is a number if it is a double. -/
def Value.IsComparable (v : Value) : Prop :=
  Cell.ofValue? v ≠ none ∧ v.isNaN = false

/-- A value that can be compared has a cell. -/
theorem Value.IsComparable.ofValue?_eq {v : Value} (h : v.IsComparable) :
    Cell.ofValue? v = some v.cell := by
  obtain ⟨c, hc⟩ := Option.ne_none_iff_exists'.mp h.1
  rw [Value.cell, hc]
  rfl

/-- The values of the markers of conditions. -/
def parameters (cols : List Column) : List Value :=
  (cols.map (·.value)).filter (!·.isNull)

theorem parameters_cons (c : Column) (cols : List Column) :
    parameters (c :: cols) =
      if c.value.isNull then parameters cols else c.value :: parameters cols := by
  rw [parameters, List.map_cons, List.filter_cons, parameters]
  cases c.value.isNull <;> rfl

/-- A lookup has one marker for each value that it compares. -/
theorem markers_agreement (k : Nat) (cols : List Column) :
    ((agreement k cols).map Condition.markers).sum = (parameters cols).length := by
  induction cols generalizing k with
  | nil => rfl
  | cons c cols ih =>
    rw [agreement, parameters_cons]
    cases c.value.isNull with
    | true =>
      rw [if_pos rfl, if_pos rfl, List.map_cons, List.sum_cons, ih]
      exact Nat.zero_add _
    | false =>
      rw [if_neg Bool.false_ne_true, if_neg Bool.false_ne_true, List.map_cons, List.sum_cons, ih,
        List.length_cons, Nat.add_comm]
      rfl

section Lawful

variable {s : Storage} (lawful : s.IsLawful)
include lawful

/-- A stored value equals the parameter that it has been stored from. -/
theorem Storage.equal_stored {v : Value} (hnull : v.isNull = false) (comparable : v.IsComparable) :
    s.Equal v.declared (s.stored v) v.cell := by
  cases v with
  | null => cases hnull
  | bool b => cases b <;> exact lawful.equal_kept rfl fun _ h => by cases h
  | int t n =>
    -- an integer of 128 bits is a text, so its column has text affinity
    by_cases ht : t = .i128
    · subst ht
      exact lawful.equal_kept rfl fun _ h => by cases h
    · have hcell := comparable.ofValue?_eq
      rw [Cell.ofValue?_int ht] at hcell
      obtain ⟨m, -, hm⟩ := Option.map_eq_some_iff.mp hcell
      rw [stored, Value.declared_int ht, ← hm, lawful.integer]
      exact lawful.equal_integer m
  | float x =>
    refine lawful.equal_kept rfl fun y hy => ?_
    cases hy
    exact comparable.2
  | text str => exact lawful.equal_kept rfl fun _ h => by cases h
  | bytes bs => exact lawful.equal_kept rfl fun _ h => by cases h

/-- The key column of a request that asks for the first row equals the number of that. -/
theorem Storage.equal_firstNumber {t : IntType} (one : t.Holds 1) :
    s.Equal .key (.integer firstNumber) (Value.int t ⟨1, one⟩).cell := by
  by_cases ht : t = .i128
  · subst ht
    exact lawful.equal_key_numeral firstNumber
  · cases t with
    | i128 => exact absurd rfl ht
    | _ => exact lawful.equal_key firstNumber

variable {row : List Column}

/-- A row agrees with itself when it is stored.  The markers go on behind the parameters in `used`. -/
theorem isTrueOf_agreement {cols : List Column}
    (hcols : ∀ c ∈ cols, c ∈ row ∧ c.noInsert = false ∧ c.value.IsComparable) (used : List Cell) :
    ∀ condition ∈ agreement (used.length + 1) cols,
      condition.IsTrueOf s (row.map (·.stored s)) (used ++ (parameters cols).map Value.cell) := by
  induction cols generalizing used with
  | nil => exact fun _ h => by cases h
  | cons c cols ih =>
    obtain ⟨⟨hmem, hwritten, comparable⟩, hcols⟩ := List.forall_mem_cons.mp hcols
    have hplace : c.stored s ∈ row.map (·.stored s) := List.mem_map_of_mem hmem
    have hcell : (c.stored s).cell = s.stored c.value := Column.stored_of_written hwritten
    rw [agreement, parameters_cons]
    cases hnull : c.value.isNull with
    | true =>
      have hstored : s.stored c.value = .null := by
        rw [Value.isNull_iff.mp hnull]
        exact lawful.texts_null
      rw [if_pos rfl, if_pos rfl]
      exact List.forall_mem_cons.mpr
        ⟨⟨c.stored s, hplace, rfl, hcell.trans hstored⟩, ih hcols used⟩
    | false =>
      -- the value of the column is the next to be used
      have hrest := ih hcols (used ++ [c.value.cell])
      rw [List.length_append, List.length_singleton, List.append_assoc, List.singleton_append] at hrest
      have hvalue : (used ++ c.value.cell :: (parameters cols).map Value.cell)[used.length + 1 - 1]? =
          some c.value.cell := by
        rw [Nat.add_sub_cancel, List.getElem?_append_right (Nat.le_refl _), Nat.sub_self]
        rfl
      have hequal : s.Equal (c.stored s).type (c.stored s).cell c.value.cell := by
        have hdeclared : (c.stored s).type = c.value.declared := by
          show c.declared = _
          rw [Column.declared, hwritten]
          rfl
        rw [hcell, hdeclared]
        exact s.equal_stored lawful hnull comparable
      rw [if_neg Bool.false_ne_true, if_neg Bool.false_ne_true, List.map_cons]
      exact List.forall_mem_cons.mpr
        ⟨⟨c.stored s, hplace, rfl, c.value.cell, hvalue, hequal⟩, hrest⟩

variable {table : String} (storable : IsStorable table row)
include storable

/-- The key lookup of a row finds its key. -/
theorem finds_keyLookup {key : Column} (hkey : key ∈ row)
    (comparable : ∀ c ∈ Shape.written row, c.value.IsComparable) :
    (Selection.ofKeyQuery (keyQuery table row key)).Finds s (row.map (·.stored s)) [key.stored s]
      ((parameters (Shape.filters row)).map Value.cell) where
  plain := Selection.isPlain_ofKeyQuery storable.table storable.names hkey
  count := by
    rw [List.length_map]
    exact (markers_agreement 1 (Shape.filters row)).symm
  picks := List.forall_mem_singleton.mpr (List.mem_map_of_mem hkey)
  few := List.length_pos_of_mem (List.mem_map_of_mem hkey)
  names := rfl
  holds := isTrueOf_agreement lawful (fun c hc => by
    have hc := mem_written_of_mem_filters hc
    obtain ⟨hrow, hinsert⟩ := List.mem_filter.mp hc
    exact ⟨hrow, by simpa using hinsert, comparable c hc⟩) []
  orders := by
    rintro _ ⟨⟩
    exact ⟨key.stored s, List.mem_map_of_mem hkey, rfl⟩

/-- A request for the first row finds all its cells, whatever its other columns hold. -/
theorem finds_get {request : List Column} {key asked : Column} {t : IntType} {one : t.Holds 1}
    (hnames : request.map (·.name) = row.map (·.name)) (hasked : asked ∈ request)
    (hvalue : asked.value = .int t ⟨1, one⟩) (hkey : key ∈ row) (generated : key.noInsert = true)
    (hname : asked.name = key.name) :
    (Selection.ofGet table request asked).Finds s (row.map (·.stored s)) (row.map (·.stored s))
      [asked.value.cell] where
  plain := by
    refine Selection.isPlain_ofGet storable.table (fun c hc => ?_) hasked
    have hc' : c.name ∈ row.map (·.name) := hnames ▸ List.mem_map_of_mem hc
    obtain ⟨d, hd, hdname⟩ := List.mem_map.mp hc'
    exact hdname ▸ storable.names d hd
  count := rfl
  picks _ hx := hx
  few := Nat.le_refl _
  names := by
    show request.map (·.name) = _
    rw [hnames, List.map_map]
    rfl
  holds := by
    -- the number of the row is compared as the key, with the number that the request asks for
    have htype : (key.stored s).type = .key := by
      show key.declared = _
      rw [Column.declared, generated]
      rfl
    refine List.forall_mem_singleton.mpr
      ⟨key.stored s, List.mem_map_of_mem hkey, hname.symm, asked.value.cell, rfl, ?_⟩
    rw [htype, Column.stored_of_generated generated, hvalue]
    exact s.equal_firstNumber lawful one
  orders := fun _ h => by cases h

end Lawful

end RecordSql
