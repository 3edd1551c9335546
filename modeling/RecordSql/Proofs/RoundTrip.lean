import RecordSql.Proofs.Embedded.Keyed
import RecordSql.Proofs.Embedded.Operations
import RecordSql.Proofs.Embedded.Serving

/-!
# A record that is inserted and read again

A record with a generated key and columns without options goes into an embedded database and comes back.
Whatever library the connection goes through, if that stores cells as it is documented and serves the
statements of the record, every field is read as it was, except truth values and doubles: their columns
are declared as texts, so the library gives texts back, and the first of them ends the scan
(`get_inserted_iff`).  The databases in memory show both cases.
-/

namespace RecordSql.Keyed

open Embedded

/-! ### Any library -/

section Library

open ConnectionTo

variable {δ : Type} {lib : Library δ} {s : Storage} {t : Tables δ} {r : Keyed} {c : Config}
  {w w₁ : World (ConnectionTo δ)}

/-- Once the table of a record is created, it has the columns of the record and no rows. -/
theorem isEmpty_of_created (serves : lib.Serves s t) (dialect : c.dialect = .sqlite)
    (created : World.run (client lib) (Operation.createTable c .none r.entry) w =
      (some (.ok ()), w₁)) :
    t.IsEmpty w₁.state.database r.table (r.row.map Column.heading) := by
  have hrow := r.row_entry dialect
  have hempty := Operation.isEmpty_of_created serves (hrow ▸ r.isStorable) created
  rwa [hrow] at hempty

/-- A record is refused if a value of it has no cell. -/
theorem run_insert_refused (serves : lib.Serves s t) (dialect : c.dialect = .sqlite)
    (refused : ∃ p ∈ r.others, Cell.ofValue? p.value = none) :
    ∃ message, (World.run (client lib) (Operation.insert c .none r.entry) w).1 =
      some (.error (.sqlite message)) := by
  have hrow := r.row_entry dialect
  refine Operation.run_insert_refused serves dialect (hrow ▸ r.isStorable) (hrow ▸ r.row_ne_nil) ?_
  obtain ⟨p, hp, hnone⟩ := refused
  rw [hrow, written_row]
  exact ⟨_, List.mem_map_of_mem hp, hnone⟩

/-- The record is refused, or answers with the number of the first row as its key. -/
theorem run_insert (serves : lib.Serves s t) (lawful : s.IsLawful) (dialect : c.dialect = .sqlite)
    (hempty : t.IsEmpty w.state.database r.table (r.row.map Column.heading))
    (accepted : ∀ p ∈ r.others, Cell.ofValue? p.value ≠ none) :
    (¬ lib.Takes s t r.table (r.row.map Column.headedCell) ∧
      ∃ message, (World.run (client lib) (Operation.insert c .none r.entry) w).1 =
        some (.error (.sqlite message))) ∨
    ∃ w₂, World.run (client lib) (Operation.insert c .none r.entry) w =
        (some (.ok (some r.numbered.keyColumn)), w₂) ∧
      t.HasRow w₂.state.database r.table (r.row.map (·.stored s)) := by
  have hrow := r.row_entry dialect
  have comparable : ∀ col ∈ Shape.written r.row, col.value.IsComparable := by
    rw [written_row]
    intro col hcol
    obtain ⟨p, hp, rfl⟩ := List.mem_map.mp hcol
    exact ⟨accepted p hp, p.number⟩
  have hkey : primaryKey? r.row = some r.keyColumn := r.primaryKey?_rowHolding _
  rw [← hrow] at hempty hkey comparable ⊢
  have hinsert := Operation.run_insert serves lawful dialect (hrow ▸ r.isStorable) hempty hkey rfl
    ⟨r.keyType, rfl⟩ comparable
  rwa [answer_keyColumn] at hinsert

/-- The numbered record is fetched up to the first value that is lost. -/
theorem run_get (serves : lib.Serves s t) (lawful : s.IsLawful) (dialect : c.dialect = .sqlite)
    (stored : t.HasRow w.state.database r.table (r.row.map (·.stored s)))
    (accepted : ∀ p ∈ r.others, Cell.ofValue? p.value ≠ none) (held : PlainField → Value) :
    ∃ e, (World.run (client lib) (Operation.get c .none (r.numbered.holding held)) w).1 =
        some (.ok (e, r.outcome)) ∧ (r.outcome = .ok () → e = r.numbered.entry) := by
  -- the request differs from the row by what it holds, and asks for the number of the first row
  have hrow : Record.row (r.numbered.holding held) c.dialect = r.numbered.rowHolding held :=
    dialect ▸ r.numbered.row_holding held
  have hnames : (r.numbered.rowHolding held).map (·.name) = r.row.map (·.name) := by
    rw [row, rowHolding, rowHolding, map_around, map_around]
    rfl
  have hkey : primaryKey? (r.numbered.rowHolding held) = some r.numbered.keyColumn :=
    r.numbered.primaryKey?_rowHolding held
  have hmem : r.keyColumn ∈ r.row := (r.mem_around _ _).mpr (Or.inl rfl)
  rw [← hrow] at hnames hkey
  have hget := Operation.run_get (r := r.numbered.holding held) serves lawful dialect r.isStorable
    stored hnames hkey rfl hmem rfl rfl
  let found : FetchedRow := ⟨r.row.map (·.name), r.row.map fun c => (c.stored s).cell.toValue⟩
  have hvalues : found.values.drop 0 = (r.returned s held).map (·.given) :=
    (r.map_given_returned s held).symm
  have hcolumns : found.columns.drop 0 = (r.returned s held).map (·.field.columnName) :=
    (r.map_columnName_returned s held).symm
  obtain ⟨houtcome, hrecord⟩ :=
    scanFields_returned (r.isFaithful_returned held lawful accepted) hvalues hcolumns
  rw [map_field_returned, outcome_returned] at houtcome hrecord
  rw [map_filled_returned] at hrecord
  refine ⟨_, ?_, fun hok => congrArg (Entry.mk r.table) (hrecord hok)⟩
  rw [hget, ← houtcome]
  rfl

/-- **A record that is inserted is read back if and only if none of its values is lost.**  Once its
table is created, the record is refused if a value of it has no cell, or if the library does not take its
row, and otherwise answers with the key of its row.  Whatever the other fields of a record
with that key hold, fetching it reads the values that were inserted, and reports the first field that
holds a truth value or a double. -/
theorem get_inserted_iff (lawful : s.IsLawful) (serves : lib.Serves s t) (r : Keyed) {c : Config}
    {w w₁ : World (ConnectionTo δ)} (dialect : c.dialect = .sqlite)
    (created : World.run (client lib) (Operation.createTable c .none r.entry) w =
      (some (.ok ()), w₁)) :
    ((∃ p ∈ r.others, Cell.ofValue? p.value = none) →
      ∃ message, (World.run (client lib) (Operation.insert c .none r.entry) w₁).1 =
        some (.error (.sqlite message))) ∧
    ((∀ p ∈ r.others, Cell.ofValue? p.value ≠ none) →
      (¬ lib.Takes s t r.table (r.row.map Column.headedCell) ∧
        ∃ message, (World.run (client lib) (Operation.insert c .none r.entry) w₁).1 =
          some (.error (.sqlite message))) ∨
      ∃ (n : Ranged r.keyType) (w₂ : World (ConnectionTo δ)),
        World.run (client lib) (Operation.insert c .none r.entry) w₁ =
          (some (.ok (some (r.withKey n).keyColumn)), w₂) ∧
        ∀ held,
          (∃ e, (World.run (client lib)
            (Operation.get c .none ((r.withKey n).holding held)) w₂).1 = some (.ok (e, r.outcome))) ∧
          ((World.run (client lib) (Operation.get c .none ((r.withKey n).holding held)) w₂).1 =
              some (.ok ((r.withKey n).entry, .ok ())) ↔
            ∀ p ∈ r.others, p.value.isLost = false)) := by
  have hempty := isEmpty_of_created serves dialect created
  refine ⟨run_insert_refused serves dialect, fun accepted => ?_⟩
  rcases run_insert serves lawful dialect hempty accepted with hrefused | ⟨w₂, hinsert, stored⟩
  · exact Or.inl hrefused
  refine Or.inr ⟨⟨1, r.keyType.holds_one⟩, w₂, hinsert, fun held => ?_⟩
  obtain ⟨e, hget, hentry⟩ := run_get serves lawful dialect stored accepted held
  refine ⟨⟨e, hget⟩, ?_⟩
  rw [← outcome_eq_ok_iff, show r.withKey ⟨1, _⟩ = r.numbered from rfl, hget]
  constructor
  · exact fun h => (Prod.mk.inj (Except.ok.inj (Option.some.inj h))).2
  · intro hok
    rw [hok, hentry hok]

end Library

/-! ### Databases in memory -/

variable {r : Keyed} {c : Config} {w : World Connection}

/-- The table of the record is created in a database without tables if its columns have different
names. -/
theorem exists_created (dialect : c.dialect = .sqlite) (few : r.row.length ≤ maxColumns)
    (distinct : DistinctNames (r.row.map Column.heading)) (internal : Database.isInternal r.table = false)
    (new : w.state.database.tables = []) :
    ∃ w₁, World.run Connection.client (Operation.createTable c .none r.entry) w =
      (some (.ok ()), w₁) := by
  have hrow := r.row_entry dialect
  have hplain := r.isStorable.isPlainTable r.row_ne_nil
  obtain ⟨sql, hsql⟩ : ∃ sql, Statement.createTable r.table r.row = .ok sql := by
    rw [Statement.createTable, checkRow_eq_ok r.plainTable r.row_ne_nil]
    exact ⟨_, rfl⟩
  have laidOut : Statement.createTable (Record.table r.entry) (Record.row r.entry c.dialect) =
      .ok sql := hrow ▸ hsql
  obtain rfl := createTable_eq r.isStorable.ordinary hsql
  have unused : ∀ t ∈ w.state.database.tables, sameName t.name r.table = false := by
    rw [new]
    exact fun t ht => absurd ht List.not_mem_nil
  -- nothing has the name of the table yet, and its columns have different names
  have hfew : (r.row.map Column.heading).length ≤ maxColumns := (List.length_map _).trans_le few
  have hrun := Database.run_createCommand_of_new hplain hfew distinct internal unused []
  have hran : ConnectionTo.ran Database.library
      ⟨createText r.table (r.row.map Column.heading), []⟩ w = _ :=
    Database.library_run ((Database.runText_createText hplain).trans hrun)
  have hcall := ConnectionTo.call_execute (congrArg Ran.duration hran)
  rw [hran] at hcall
  exact ⟨_, Operation.run_createTable_of_executed laidOut hcall⟩

/-- A text, an absent integer and an integer of 128 bits are read back from a new database in memory. -/
theorem get_inserted_iff_person :
    let r : Keyed := ⟨"person", [⟨"name", ⟨.text, false⟩, .text "Ada", by decide, by decide, rfl⟩],
      "id", .i64, ⟨0, by decide⟩,
      [⟨"age", ⟨.int .u8, true⟩, .null, by decide, by decide, rfl⟩,
        ⟨"balance", ⟨.int .i128, false⟩, .int .i128 ⟨-0x8000000000000000000000, by decide⟩,
          by decide, by decide, rfl⟩], by decide, by decide⟩
    let c : Config := ⟨.sqlite, '@'⟩
    let w : World Connection := ⟨Connection.initial false, 0, []⟩
    storage.IsLawful ∧ Database.library.Serves storage tablesInMemory ∧ c.dialect = .sqlite ∧
      ∃ w₁, World.run Connection.client (Operation.createTable c .none r.entry) w =
          (some (.ok ()), w₁) ∧
        ∃ (n : Ranged .i64) (w₂ : World Connection),
          World.run Connection.client (Operation.insert c .none r.entry) w₁ =
            (some (.ok (some (r.withKey n).keyColumn)), w₂) ∧
          ∀ held,
            (World.run Connection.client (Operation.get c .none ((r.withKey n).holding held)) w₂).1 =
              some (.ok ((r.withKey n).entry, .ok ())) := by
  intro r c w
  obtain ⟨w₁, created⟩ :=
    exists_created (r := r) (c := c) (w := w) rfl (by decide) (by decide) (by decide) rfl
  obtain ⟨-, answers⟩ := get_inserted_iff isLawful_storage serves_library r (c := c) rfl created
  obtain ⟨refused, -⟩ | ⟨n, w₂, hinsert, hget⟩ := answers (by decide)
  · exact absurd (takes_library (by decide)) refused
  · exact ⟨isLawful_storage, serves_library, rfl, w₁, created, n, w₂, hinsert,
      fun held => (hget held).2.mpr (by decide)⟩

/-- A truth value comes back as a text, which its field does not read. -/
theorem get_inserted_flag_mismatch :
    let r : Keyed := ⟨"t", [], "id", .i64, ⟨0, by decide⟩,
      [⟨"b", ⟨.bool, false⟩, .bool true, by decide, by decide, rfl⟩], by decide, by decide⟩
    let c : Config := ⟨.sqlite, '@'⟩
    let w : World Connection := ⟨Connection.initial true, 0, []⟩
    ∃ w₁ w₂ e,
      World.run Connection.client (Operation.createTable c .none r.entry) w =
        (some (.ok ()), w₁) ∧
      World.run Connection.client (Operation.insert c .none r.entry) w₁ =
        (some (.ok (some ⟨"id", .int .i64 ⟨1, by decide⟩, some Dialect.sqlite.keyOptions⟩)), w₂) ∧
      (World.run Connection.client
        (Operation.get c .none (r.numbered.holding fun _ => .bool false)) w₂).1 =
        some (.ok (e, .error (.decode "b" "expected bool, got text"))) := by
  intro r c w
  obtain ⟨w₁, created⟩ :=
    exists_created (r := r) (c := c) (w := w) rfl (by decide) (by decide) (by decide) rfl
  have hempty := isEmpty_of_created (r := r) (c := c) serves_library rfl created
  have accepted : ∀ p ∈ r.others, Cell.ofValue? p.value ≠ none := by decide
  obtain ⟨refused, -⟩ | ⟨w₂, hinsert, stored⟩ :=
    run_insert serves_library isLawful_storage (c := c) rfl hempty accepted
  · exact absurd (takes_library (by decide)) refused
  obtain ⟨e, hget, -⟩ :=
    run_get serves_library isLawful_storage (c := c) rfl stored accepted fun _ => .bool false
  exact ⟨w₁, w₂, e, created, hinsert, hget⟩

end RecordSql.Keyed
