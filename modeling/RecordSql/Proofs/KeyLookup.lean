import RecordSql.Statement

/-!
# What a key lookup compares

A key lookup finds the row that an insert has just written by the values that were written.  It
compares every written column that is not marked as key and holds no bytes (`keyLookup_eq`).  The
key is the first of the columns marked as key only, so this is everything the insert wrote beside
the key and bytes exactly if no further column marked as key was written with anything but bytes
(`keyLookup_eq_iff`); otherwise rows that differ in such a column are not told apart.
-/

namespace RecordSql

open Shape

/-! ### The condition of a lookup -/

/-- A comparison for each column: a null is tested for, any other value takes the next marker. -/
def comparisons (d : Dialect) (cols : List Column) : List String :=
  cols.mapIdx fun i c =>
    if c.value.isNull then c.name ++ " IS NULL"
    else c.name ++ "=" ++ d.marker ((cols.take i).countP (!·.value.isNull) + 1)

/-- The query for the keys of the rows that agree with `cols`, the greatest key first. -/
def lookupBy (d : Dialect) (table : String) (key : Column) (cols : List Column) : Statement :=
  ⟨"SELECT " ++ key.name ++ " FROM " ++ table
      ++ (if cols.isEmpty then "" else " WHERE " ++ " AND ".intercalate (comparisons d cols))
      ++ " ORDER BY " ++ key.name ++ " DESC",
    (cols.filter (!·.value.isNull)).map (·.value)⟩

/-- The marker of a condition counts the comparisons up to it. -/
theorem conditions_eq_mapIdx (d : Dialect) (k : Nat) (cols : List Column) :
    conditions d k cols = cols.mapIdx fun i c =>
      if c.value.isNull then c.name ++ " IS NULL"
      else c.name ++ "=" ++ d.marker (k + (cols.take i).countP (!·.value.isNull)) := by
  induction cols generalizing k with
  | nil => rfl
  | cons c cols ih =>
    rw [conditions, List.mapIdx_cons]
    cases hc : c.value.isNull with
    | true => simp [ih, hc]
    | false => simp [ih, hc, Nat.add_assoc, Nat.add_comm 1]

/-- The conditions of a lookup are the comparisons with the columns in turn. -/
theorem comparisons_eq (d : Dialect) (cols : List Column) :
    comparisons d cols = conditions d 1 cols := by
  rw [conditions_eq_mapIdx, comparisons]
  simp only [Nat.add_comm 1]

/-- The lookup of a row compares the columns that are handed to it. -/
theorem statement_lookup (d : Dialect) (table : String) (key : Column) (cols : List Column) :
    (Shape.lookup table key cols).statement d = lookupBy d table key cols := by
  have hargs : (cols.map (·.value)).filter (!·.isNull) =
      (cols.filter (!·.value.isNull)).map (·.value) := by
    rw [List.filter_map]
    rfl
  have hsql : (Shape.lookup table key cols).sql d = (lookupBy d table key cols).sql := by
    rw [lookupBy, comparisons_eq]
    rfl
  rw [statement, hsql, Shape.args, hargs, lookupBy]

/-! ### More columns make a longer text -/

/-- Markers get no shorter with their numbers. -/
theorem length_marker_le (d : Dialect) {k l : Nat} (h : k ≤ l) :
    (d.marker k).length ≤ (d.marker l).length := by
  have hdigits : (Nat.toDigits 10 k).length ≤ (Nat.toDigits 10 l).length := by
    have hpos : 0 < (Nat.toDigits 10 l).length := Nat.length_toDigits_pos
    rw [Nat.length_toDigits_le_iff (by decide) hpos]
    exact Nat.lt_of_le_of_lt h ((Nat.length_toDigits_le_iff (by decide) hpos).mp (Nat.le_refl _))
  rw [Dialect.marker, Dialect.marker, String.length_ofList, String.length_ofList]
  cases d.style with
  | question => exact Nat.le_refl _
  | numbered => exact Nat.succ_le_succ hdigits

/-- The length of texts with five characters behind each. -/
def spacedLength : List String → Nat
  | [] => 0
  | s :: items => s.length + 5 + spacedLength items

theorem length_intercalate_and {items : List String} (h : items ≠ []) :
    (" AND ".intercalate items).length + 5 = spacedLength items := by
  induction items with
  | nil => exact absurd rfl h
  | cons s items ih =>
    cases items with
    | nil => simp [spacedLength]
    | cons t items =>
      have hrest := ih (List.cons_ne_nil t items)
      have hand : " AND ".length = 5 := rfl
      rw [String.intercalate_cons_cons, String.length_append, String.length_append,
        spacedLength, ← hrest]
      omega

/-- Every column that is left out makes the conditions shorter. -/
theorem spacedLength_conditions_le (d : Dialect) {cols cols' : List Column} (h : cols.Sublist cols')
    {k k' : Nat} (hk : k ≤ k') :
    spacedLength (conditions d k cols) + 5 * cols'.length ≤
      spacedLength (conditions d k' cols') + 5 * cols.length := by
  induction h generalizing k k' with
  | slnil => exact Nat.le_refl _
  | cons c _ ih =>
    -- left out: a condition with its space is five characters or more
    rw [conditions, List.length_cons]
    cases c.value.isNull with
    | true =>
      have hrest := ih hk
      rw [if_pos rfl, spacedLength]
      omega
    | false =>
      have hrest := ih (Nat.le_add_right_of_le (k := 1) hk)
      rw [if_neg Bool.false_ne_true, spacedLength]
      omega
  | cons_cons c _ ih =>
    -- kept: the number of its marker has not grown
    rw [conditions, conditions, List.length_cons, List.length_cons]
    cases c.value.isNull with
    | true =>
      have hrest := ih hk
      rw [if_pos rfl, if_pos rfl, spacedLength, spacedLength]
      omega
    | false =>
      have hrest := ih (Nat.add_le_add_right hk 1)
      have hmarker := length_marker_le d hk
      rw [if_neg Bool.false_ne_true, if_neg Bool.false_ne_true, spacedLength,
        spacedLength, String.length_append, String.length_append, String.length_append,
        String.length_append]
      omega

theorem length_comparisons (d : Dialect) (cols : List Column) :
    (comparisons d cols).length = cols.length := by
  rw [comparisons, List.length_mapIdx]

/-- A lookup that compares fewer columns has a shorter text, so two lookups by different columns
differ. -/
theorem length_sql_lookupBy_lt (d : Dialect) (table : String) (key : Column)
    {cols cols' : List Column} (h : cols.Sublist cols') (hlt : cols.length < cols'.length) :
    (lookupBy d table key cols).sql.length < (lookupBy d table key cols').sql.length := by
  have hspaced := spacedLength_conditions_le d h (Nat.le_refl 1)
  rw [← comparisons_eq, ← comparisons_eq] at hspaced
  have hwhere : " WHERE ".length = 7 := rfl
  -- The text is seven characters and, for a non-empty list, its spaced length less the last space.
  have hne : ∀ {l : List Column}, l ≠ [] → comparisons d l ≠ [] := by
    intro l hl hnil
    have := length_comparisons d l
    rw [hnil] at this
    exact hl (List.eq_nil_of_length_eq_zero this.symm)
  have hcols' : cols' ≠ [] := List.length_pos_iff.mp (Nat.zero_lt_of_lt hlt)
  have hlength' := length_intercalate_and (hne hcols')
  simp only [lookupBy, String.length_append]
  rw [List.isEmpty_eq_false_iff.mpr hcols', if_neg Bool.false_ne_true, String.length_append]
  by_cases hcols : cols = []
  · rw [if_pos (List.isEmpty_iff.mpr hcols), String.length_empty]
    omega
  · have hlength := length_intercalate_and (hne hcols)
    rw [List.isEmpty_eq_false_iff.mpr hcols, if_neg Bool.false_ne_true, String.length_append]
    omega

/-! ### The columns compared -/

/-- The first key column is no exception among the columns that are no keys. -/
theorem filter_eraseP (row : List Column) :
    (row.eraseP (·.isPrimaryKey)).filter (!·.isPrimaryKey) = row.filter (!·.isPrimaryKey) := by
  induction row with
  | nil => rfl
  | cons c row ih =>
    cases hc : c.isPrimaryKey with
    | true => rw [List.eraseP_cons_of_pos hc, List.filter_cons_of_neg (by rw [hc]; decide)]
    | false =>
      rw [List.eraseP_cons_of_neg (by rw [hc]; decide), List.filter_cons_of_pos (by rw [hc]; rfl),
        List.filter_cons_of_pos (by rw [hc]; rfl), ih]

/-- What an insert writes of a row beside its key and bytes. -/
def writtenBesideKey (row : List Column) : List Column :=
  (row.eraseP (·.isPrimaryKey)).filter fun c => !c.noInsert && !c.value.isBytes

/-- The lookup leaves out the key columns besides the key that it looks for. -/
theorem filters_eq (row : List Column) :
    filters row = (writtenBesideKey row).filter (!·.isPrimaryKey) := by
  have hsplit : filters row =
      (row.filter (!·.isPrimaryKey)).filter fun c => !c.noInsert && !c.value.isBytes := by
    rw [filters, List.filter_filter]
    exact List.filter_congr fun c _ => by rw [Bool.and_assoc, Bool.and_comm]
  rw [hsplit, ← filter_eraseP, writtenBesideKey, List.filter_filter, List.filter_filter]
  exact List.filter_congr fun c _ => Bool.and_comm _ _

/-- A lookup compares the written columns that are not marked as key and hold no bytes. -/
theorem keyLookup_eq (d : Dialect) (table : String) (row : List Column) (key : Column) :
    Statement.keyLookup d table row key =
      lookupBy d table key ((written row).filter fun c => !c.isPrimaryKey && !c.value.isBytes) := by
  have hfilters : filters row =
      (written row).filter fun c => !c.isPrimaryKey && !c.value.isBytes := by
    rw [filters, written, List.filter_filter]
    refine List.filter_congr fun c _ => ?_
    cases c.isPrimaryKey <;> cases c.noInsert <;> cases c.value.isBytes <;> rfl
  rw [Statement.keyLookup, lookupOf, statement_lookup, hfilters]

/-- Nothing but a further key column that is written, and that is not bytes, can be missing. -/
theorem filters_eq_writtenBesideKey_iff (row : List Column) :
    filters row = writtenBesideKey row ↔
      ∀ c ∈ row.eraseP (·.isPrimaryKey), c.isPrimaryKey = true →
        c.noInsert = true ∨ c.value.isBytes = true := by
  rw [filters_eq, List.filter_eq_self]
  constructor
  · intro h c hc hkey
    cases hinsert : c.noInsert with
    | true => exact Or.inl rfl
    | false =>
      right
      cases hbytes : c.value.isBytes with
      | true => rfl
      | false =>
        -- a key that is written and not bytes would be compared, were it no key
        have hmem : c ∈ writtenBesideKey row :=
          List.mem_filter.mpr ⟨hc, by rw [hinsert, hbytes]; rfl⟩
        have := h c hmem
        rw [hkey] at this
        cases this
  · intro h c hc
    obtain ⟨hmem, hplain⟩ := List.mem_filter.mp hc
    cases hkey : c.isPrimaryKey with
    | false => rfl
    | true => rcases h c hmem hkey with hinsert | hbytes <;> simp_all

/-! ### The insert and the lookup -/

/-- The insert of `cols`, which reads the key back where the dialect does that. -/
def insertBy (d : Dialect) (table : String) (key : Column) (cols : List Column) : Statement :=
  ⟨"INSERT INTO " ++ table
      ++ (if cols.isEmpty then d.emptyInsertTail
        else " (" ++ nameList cols ++ ") VALUES (" ++ markerList d cols.length ++ ")")
      ++ (if d.returnsKey then " RETURNING " ++ key.name else ""),
    cols.map (·.value)⟩

/-- An insert of a row with a key writes all columns that the caller gives values to. -/
theorem insert_eq {row : List Column} {key : Column} (d : Dialect) (table : String)
    (hkey : primaryKey? row = some key) :
    Statement.insert d table row =
      if table.isEmpty then .error (.validation "record has an empty table name")
      else .ok (insertBy d table key (written row)) := by
  have hrow : row.isEmpty = false := by
    rw [List.isEmpty_eq_false_iff]
    rintro rfl
    cases hkey
  rw [Statement.insert, insertOf, checkRow, checkTable, hrow, returningKey?, hkey]
  cases table.isEmpty <;> cases d <;> rfl

/-- **A key lookup compares everything the insert wrote**, apart from its key and bytes, exactly if
no further column marked as key was written with anything but bytes. -/
theorem keyLookup_eq_iff (d : Dialect) (table : String) (row : List Column) (key : Column)
    (hkey : primaryKey? row = some key) :
    (Statement.insert d table row =
      if table.isEmpty then .error (.validation "record has an empty table name")
      else .ok (insertBy d table key (written row))) ∧
    Statement.keyLookup d table row key =
      lookupBy d table key ((written row).filter fun c => !c.isPrimaryKey && !c.value.isBytes) ∧
    (Statement.keyLookup d table row key = lookupBy d table key (writtenBesideKey row) ↔
      ∀ c ∈ row.eraseP (·.isPrimaryKey), c.isPrimaryKey = true →
        c.noInsert = true ∨ c.value.isBytes = true) := by
  refine ⟨insert_eq d table hkey, keyLookup_eq d table row key, ?_⟩
  rw [← filters_eq_writtenBesideKey_iff, Statement.keyLookup, lookupOf, statement_lookup]
  constructor
  · intro h
    have hsub : (filters row).Sublist (writtenBesideKey row) := by
      rw [filters_eq]
      exact List.filter_sublist
    -- columns that were left out would have left the text shorter
    refine hsub.eq_of_length (Nat.le_antisymm hsub.length_le (Nat.not_lt.mp fun hlt => ?_))
    have hlength := length_sql_lookupBy_lt d table key hsub hlt
    rw [h] at hlength
    exact Nat.lt_irrefl _ hlength
  · intro h
    rw [h]

/-- Without a key besides the generated one, nothing but the bytes is left out. -/
theorem keyLookup_generatedKey :
    let key : Column := ⟨"id", .int .i64 ⟨0, by decide⟩, some .generatedKey⟩
    let row : List Column :=
      [key, ⟨"avatar", .bytes [0x89], none⟩, ⟨"n", .int .i64 ⟨5, by decide⟩, none⟩]
    primaryKey? row = some key ∧
      (Statement.insert .sqlite "t" row =
        if "t".isEmpty then .error (.validation "record has an empty table name")
        else .ok (insertBy .sqlite "t" key (written row))) ∧
      Statement.keyLookup .sqlite "t" row key =
        lookupBy .sqlite "t" key
          ((written row).filter fun c => !c.isPrimaryKey && !c.value.isBytes) ∧
      (Statement.keyLookup .sqlite "t" row key = lookupBy .sqlite "t" key (writtenBesideKey row) ↔
        ∀ c ∈ row.eraseP (·.isPrimaryKey), c.isPrimaryKey = true →
          c.noInsert = true ∨ c.value.isBytes = true) := by
  intro key row
  have hkey : primaryKey? row = some key := by decide
  exact ⟨hkey, keyLookup_eq_iff .sqlite "t" row key hkey⟩

/-- A second column marked as key is written but not compared. -/
theorem keyLookup_suppliedKey_not_compared :
    let key : Column := ⟨"id", .int .i64 ⟨0, by decide⟩, some .generatedKey⟩
    let five : Value := .int .i64 ⟨5, by decide⟩
    let row : List Column := [key, ⟨"code", .text "X1", some .suppliedKey⟩, ⟨"n", five, none⟩]
    Statement.insert .sqlite "t" row =
        .ok ⟨"INSERT INTO t (code,n) VALUES (?,?)", [.text "X1", five]⟩ ∧
      Statement.keyLookup .sqlite "t" row key =
        ⟨"SELECT id FROM t WHERE n=? ORDER BY id DESC", [five]⟩ :=
  ⟨rfl, rfl⟩

end RecordSql
