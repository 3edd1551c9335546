import RecordSql.Operation
import RecordSql.Proofs.Embedded.Session
import RecordSql.Proofs.Embedded.Stored
import RecordSql.Proofs.Insert

/-!
# Operations on an embedded database

What the operations on a record do on a connection, whatever library it goes through, if that serves the
statements of the record (`Library.Serves`) and the row can be stored as it is (`IsStorable`).  Once its
table is created, the record is refused or answers with the number of its row as its key (`run_insert`);
and the record with that key is fetched with what its columns have stored (`run_get`).
-/

namespace RecordSql

open Embedded

/-- A table with a plain name and with columns is not refused. -/
theorem checkRow_eq_ok {table : String} {row : List Column} (htable : IsPlainName table)
    (hne : row ≠ []) : checkRow table row = .ok () := by
  rw [checkRow, checkTable, htable.isEmpty_eq_false, List.isEmpty_eq_false_iff.mpr hne]
  rfl

/-- There is no table without columns. -/
theorem ne_nil_of_createTable {table sql : String} {row : List Column}
    (h : Statement.createTable table row = .ok sql) : row ≠ [] := by
  rintro rfl
  rw [Statement.createTable, checkRow] at h
  cases htable : checkTable table <;> rw [htable] at h <;> cases h

/-- The text of an insert is recognized as one. -/
theorem startsInsert_insertText (table : String) (names : List String) :
    startsInsert (insertText table names) = true := by
  rw [startsInsert, insertText, String.append_assoc, String.toList_append]
  rfl

namespace Operation

variable {ρ σ : Type} [Record ρ] {r : ρ} {c : Config}

/-! ### From the answer of a call to the outcome of an operation -/

section Answers

variable {client : Client σ} {limits : Limits} {w w' : World σ}

/-- A table is created if and only if its statement is executed. -/
theorem run_createTable_of_executed {sql : String} {answer : Except Fault ExecResult}
    (laidOut : Statement.createTable (Record.table r) (Record.row r c.dialect) = .ok sql)
    (answered : w.call client (.execute ⟨sql, []⟩) (client.execute ⟨sql, []⟩) limits =
      (some answer, w')) :
    World.run client (createTable c limits r) w = (some (answer.map fun _ => ()), w') := by
  have hsend := (World.run_send client ⟨sql, []⟩ limits w).trans answered
  rw [createTable, laidOut]
  show World.run client (send ⟨sql, []⟩ limits >>= fun _ => pure ()) w = _
  cases answer with
  | error e => exact World.run_bind_of_error client hsend
  | ok result => exact World.run_bind_of_ok client hsend

/-- An insert whose execution fails has failed. -/
theorem run_insert_of_refused {st : Statement} {e : Fault}
    (laidOut : Statement.insert c.dialect (Record.table r) (Record.row r c.dialect) = .ok st)
    (plain : returningKey? c.dialect (Record.row r c.dialect) = none)
    (answered : w.call client (.execute st) (client.execute st) limits = (some (.error e), w')) :
    World.run client (insert c limits r) w = (some (.error e), w') := by
  rw [insert_eq laidOut, plain]
  exact World.run_bind_of_error client ((World.run_send client st limits w).trans answered)

/-- So has one whose lookup fails. -/
theorem run_resolveKey_of_refused {table : String} {row : List Column} {key : Column} {touched : Nat}
    {e : Fault} (hkey : primaryKey? row = some key) (generated : key.noInsert = true)
    (answered : w.call client (.queryFirst (Statement.keyLookup c.dialect table row key))
      (client.queryFirst (Statement.keyLookup c.dialect table row key)) limits =
        (some (.error e), w')) :
    World.run client (resolveKey c limits table row ⟨touched, none⟩) w = (some (.error e), w') := by
  rw [resolveKey_of_generated hkey generated]
  exact World.run_bind_of_error client ((World.run_fetchFirst client _ limits w).trans answered)

/-- A record is read into from the row that its query has found. -/
theorem run_get_of_found {st : Statement} {row : FetchedRow}
    (laidOut : Statement.get c.dialect (Record.table r) (Record.row r c.dialect) = .ok st)
    (answered : w.call client (.queryFirst st) (client.queryFirst st) limits =
      (some (.ok (some row)), w')) :
    World.run client (get c limits r) w =
      (some (.ok ((Record.scan r row.reader).record, (Record.scan r row.reader).outcome)), w') := by
  have hattempt : World.run client (fetchFirst st limits).attempt w =
      (some (.ok (.ok (some row))), w') := by
    rw [World.run_attempt, World.run_fetchFirst, answered]
    rfl
  rw [get, laidOut]
  exact World.run_bind_of_ok client hattempt

end Answers

/-! ### On a library -/

open ConnectionTo

/-- There is an insert of every row that can be stored. -/
theorem insert_eq_ok (dialect : c.dialect = .sqlite)
    (h : IsStorable (Record.table r) (Record.row r c.dialect))
    (hne : Record.row r c.dialect ≠ []) :
    Statement.insert c.dialect (Record.table r) (Record.row r c.dialect) =
      .ok ⟨insertText (Record.table r) ((Shape.written (Record.row r c.dialect)).map (·.name)),
        (Shape.written (Record.row r c.dialect)).map (·.value)⟩ := by
  obtain ⟨st, hst⟩ : ∃ st, Statement.insert .sqlite (Record.table r) (Record.row r c.dialect) =
      .ok st := by
    rw [Statement.insert, Shape.insertOf, checkRow_eq_ok h.table hne]
    exact ⟨_, rfl⟩
  rw [dialect] at hst ⊢
  rw [hst, insert_eq_text hst]

/-- An insert that has touched one row reports its number if the connection reports keys. -/
theorem executed_inserted {δ : Type} {lib : Library δ} {sql : String} {w : World (ConnectionTo δ)}
    {reply : Reply} {result : ExecResult} (starts : startsInsert sql = true)
    (rows : reply.rows = []) (inserted : reply.inserted = some firstNumber)
    (touched : lib.touched w.state.database = 1)
    (executed : ConnectionTo.executed lib sql w.state reply = .ok result) :
    result = ⟨1, if w.state.reportsKeys then some firstNumber else none⟩ := by
  rw [ConnectionTo.executed, rows, starts, inserted, touched] at executed
  cases hreports : w.state.reportsKeys <;> rw [hreports] at executed <;> cases executed <;> rfl

section Served

variable {δ : Type} {lib : Library δ} {s : Storage} {t : Tables δ} {w w₁ : World (ConnectionTo δ)}

/-- Once the table of a record is created, it is there, and empty. -/
theorem isEmpty_of_created (serves : lib.Serves s t)
    (h : IsStorable (Record.table r) (Record.row r c.dialect))
    (created : World.run (client lib) (createTable c .none r) w = (some (.ok ()), w₁)) :
    t.IsEmpty w₁.state.database (Record.table r)
      ((Record.row r c.dialect).map Column.heading) := by
  cases laidOut : Statement.createTable (Record.table r) (Record.row r c.dialect) with
  | error e =>
    rw [createTable, laidOut] at created
    cases created
  | ok sql =>
    have hplain := h.isPlainTable (ne_nil_of_createTable laidOut)
    obtain rfl := createTable_eq h.ordinary laidOut
    obtain ⟨w', -, ⟨-, message, hcall⟩ | ⟨reply, result, hempty, -, hcall⟩⟩ :=
      call_execute_cases (w := w) ⟨_, []⟩ (serves.creates hplain)
    · rw [run_createTable_of_executed laidOut hcall] at created
      cases created
    · rw [run_createTable_of_executed laidOut hcall] at created
      obtain ⟨-, rfl⟩ := Prod.mk.inj created
      exact hempty

/-- A record is refused if a value of it has no cell. -/
theorem run_insert_refused (serves : lib.Serves s t) (dialect : c.dialect = .sqlite)
    (h : IsStorable (Record.table r) (Record.row r c.dialect))
    (hne : Record.row r c.dialect ≠ [])
    (refused : ∃ col ∈ Shape.written (Record.row r c.dialect), Cell.ofValue? col.value = none) :
    ∃ message, (World.run (client lib) (insert c .none r) w).1 =
      some (.error (.sqlite message)) := by
  have laidOut := insert_eq_ok dialect h hne
  obtain ⟨col, hcol, hnone⟩ := refused
  have hcells : none ∈ ((Shape.written (Record.row r c.dialect)).map (·.value)).map Cell.ofValue? :=
    hnone ▸ List.mem_map_of_mem (List.mem_map_of_mem hcol)
  obtain ⟨w', -, ⟨-, message, hcall⟩ | ⟨_, _, hfalse, -⟩⟩ :=
    call_execute_cases (w := w) ⟨_, _⟩ (serves.refuses hcells)
  · rw [run_insert_of_refused laidOut (returningKey?_eq_none (.inl dialect) _) hcall]
    exact ⟨message, rfl⟩
  · exact hfalse.elim

/-- The insert of a row whose values have cells ends, and if it is not refused the row is there.  A
library that takes the row does not refuse it. -/
theorem ends_insert (serves : lib.Serves s t) {table : String} {row : List Column}
    (h : IsStorable table row) (hne : row ≠ [])
    (hempty : t.IsEmpty w.state.database table (row.map Column.heading))
    (comparable : ∀ col ∈ Shape.written row, col.value.IsComparable) :
    (ran lib ⟨insertText table ((Shape.written row).map (·.name)),
      (Shape.written row).map (·.value)⟩ w).Ends (fun reply after =>
        reply.rows = [] ∧ reply.inserted = some firstNumber ∧ lib.touched after = 1 ∧
          t.HasRow after table (row.map (·.stored s))) ∧
      (lib.Takes s t table (row.map Column.headedCell) →
        ∃ reply, (ran lib ⟨insertText table ((Shape.written row).map (·.name)),
          (Shape.written row).map (·.value)⟩ w).result = .ok reply) := by
  have hheadings : (row.map Column.headedCell).map (·.toHeading) = row.map Column.heading :=
    List.map_map
  have hnames : (HeadedCell.written (row.map Column.headedCell)).map (·.name) =
      (Shape.written row).map (·.name) := by
    rw [Column.written_map_headedCell, List.map_map]
    rfl
  have hcells : (HeadedCell.written (row.map Column.headedCell)).map (fun x => some x.cell) =
      ((Shape.written row).map (·.value)).map Cell.ofValue? := by
    rw [Column.written_map_headedCell, List.map_map, List.map_map]
    exact List.map_congr_left fun col hcol => ((comparable col hcol).ofValue?_eq).symm
  have hplain : IsPlainTable table ((row.map Column.headedCell).map (·.toHeading)) :=
    hheadings ▸ h.isPlainTable hne
  rw [← hheadings] at hempty
  have hends := serves.inserts hplain hempty
  rw [Column.map_stored, hnames, hcells] at hends
  refine ⟨hends, fun taken => ?_⟩
  have hok := taken.inserts hplain hempty
  rwa [hnames, hcells] at hok

/-- The key lookup of a row that is there ends, and if it is not refused it finds the number of the
row.  A library that takes the row does not refuse it. -/
theorem ends_keyLookup (serves : lib.Serves s t) (lawful : s.IsLawful) {table : String}
    {row : List Column} {key : Column} (h : IsStorable table row)
    (hrow : t.HasRow w.state.database table (row.map (·.stored s))) (hkey : key ∈ row)
    (generated : key.noInsert = true)
    (comparable : ∀ col ∈ Shape.written row, col.value.IsComparable) :
    (ran lib (Statement.keyLookup .sqlite table row key) w).Ends (fun reply after =>
        reply.first? = some ⟨[key.name], [.int .i64 firstNumber]⟩ ∧
          t.HasRow after table (row.map (·.stored s))) ∧
      (lib.Takes s t table (row.map Column.headedCell) →
        ∃ reply, (ran lib (Statement.keyLookup .sqlite table row key) w).result = .ok reply) := by
  have hcells : ((parameters (Shape.filters row)).map Value.cell).map some =
      (parameters (Shape.filters row)).map Cell.ofValue? := by
    rw [List.map_map]
    refine List.map_congr_left fun v hv => ?_
    obtain ⟨col, hcol, rfl⟩ := List.mem_map.mp (List.mem_filter.mp hv).1
    exact ((comparable col (mem_written_of_mem_filters hcol)).ofValue?_eq).symm
  have hfinds := finds_keyLookup lawful h hkey comparable
  have hends := serves.selects (q := .ofKeyQuery (keyQuery table row key)) hrow hfinds
  rw [hcells, ← Selection.text_ofKeyQuery] at hends
  rw [keyLookup_eq_text]
  refine ⟨⟨hends.1, fun reply hreply => ?_⟩, fun taken => ?_⟩
  · obtain ⟨hnames, hrows, hafter⟩ := hends.2 reply hreply
    refine ⟨?_, hafter⟩
    rw [Reply.first?, hnames, hrows, List.map_singleton, List.map_singleton,
      Column.stored_of_generated generated]
    rfl
  · -- a condition compares a cell of the row, so there are no more of them than cells
    have hconditions : (keyQuery table row key).conditions.length ≤
        (row.map Column.headedCell).length := by
      rw [List.length_map, keyQuery, length_agreement]
      exact List.length_filter_le _ _
    rw [← Column.map_stored] at hrow hfinds
    have hok := taken.selects (q := .ofKeyQuery (keyQuery table row key)) rfl hrow hfinds hconditions
    rwa [hcells, ← Selection.text_ofKeyQuery] at hok

/-- **A record is refused, or inserted as the first row of its table**, and then it answers with the
number of the row as its key, whether the connection reports it or leaves it to the lookup.  It is not
refused by a library that takes its row. -/
theorem run_insert (serves : lib.Serves s t) (lawful : s.IsLawful) (dialect : c.dialect = .sqlite)
    (h : IsStorable (Record.table r) (Record.row r c.dialect))
    (hempty : t.IsEmpty w.state.database (Record.table r)
      ((Record.row r c.dialect).map Column.heading)) {key : Column}
    (hkey : primaryKey? (Record.row r c.dialect) = some key) (generated : key.noInsert = true)
    (integers : ∃ t, key.value.kind = .int t)
    (comparable : ∀ col ∈ Shape.written (Record.row r c.dialect), col.value.IsComparable) :
    (¬ lib.Takes s t (Record.table r) ((Record.row r c.dialect).map Column.headedCell) ∧
      ∃ message, (World.run (client lib) (insert c .none r) w).1 =
        some (.error (.sqlite message))) ∨
    ∃ w₂, World.run (client lib) (insert c .none r) w =
        (some ((Key.answer key firstNumber).map some), w₂) ∧
      t.HasRow w₂.state.database (Record.table r)
        ((Record.row r c.dialect).map (·.stored s)) := by
  have hmem : key ∈ Record.row r c.dialect := List.mem_of_find?_eq_some hkey
  have hne : Record.row r c.dialect ≠ [] := List.ne_nil_of_mem hmem
  have laidOut := insert_eq_ok dialect h hne
  have plain := returningKey?_eq_none (.inl dialect) (Record.row r c.dialect)
  have takes : Key.TakesIntegers key := Or.inr integers
  obtain ⟨hends, haccepted⟩ := ends_insert serves h hne hempty comparable
  obtain ⟨w', hreports, ⟨hrows, message, hcall⟩ | ⟨reply, result, hanswer, hexecuted, hcall⟩⟩ :=
    call_execute_cases _ hends
  · rw [run_insert_of_refused laidOut plain hcall]
    refine Or.inl ⟨fun taken => ?_, message, rfl⟩
    obtain ⟨reply, hreply⟩ := haccepted taken
    exact hrows reply hreply (hends.2 reply hreply).1
  obtain ⟨hrows, hinserted, htouched, hrow⟩ := hanswer
  obtain rfl := executed_inserted (startsInsert_insertText _ _) hrows hinserted htouched hexecuted
  cases hkeys : w'.state.reportsKeys with
  | true =>
    rw [hkeys, if_pos rfl] at hcall
    exact Or.inr ⟨w', run_insert_of_told laidOut (.executed plain hcall) hkey generated takes .reported,
      hrow⟩
  | false =>
    -- the row is looked up by the values that were written
    rw [hkeys, if_neg Bool.false_ne_true] at hcall
    have hlooked := ends_keyLookup serves lawful h hrow hmem generated comparable
    rw [← dialect] at hlooked
    obtain ⟨w₂, ⟨message, hrefused, hlookup⟩ | ⟨found, ⟨hfound, hafter⟩, hlookup⟩⟩ :=
      call_queryFirst_cases _ hlooked.1
    · rw [run_insert_of_executed laidOut plain hcall,
        run_resolveKey_of_refused hkey generated hlookup]
      refine Or.inl ⟨fun taken => ?_, message, rfl⟩
      obtain ⟨reply, hreply⟩ := hlooked.2 taken
      cases hrefused.symm.trans hreply
    · rw [hfound] at hlookup
      exact Or.inr ⟨w₂, run_insert_of_told laidOut (.executed plain hcall) hkey generated takes
        (.lookedUp hlookup rfl), hafter⟩

/-- **A record that asks for the first row is read from what the columns have stored**, whatever its
other fields hold. -/
theorem run_get (serves : lib.Serves s t) (lawful : s.IsLawful) {row : List Column}
    (dialect : c.dialect = .sqlite) (h : IsStorable (Record.table r) row)
    (hrow : t.HasRow w.state.database (Record.table r) (row.map (·.stored s)))
    (hnames : (Record.row r c.dialect).map (·.name) = row.map (·.name)) {key asked : Column}
    {u : IntType} {one : u.Holds 1} (hasked : primaryKey? (Record.row r c.dialect) = some asked)
    (hvalue : asked.value = .int u ⟨1, one⟩) (hmem : key ∈ row) (generated : key.noInsert = true)
    (hname : asked.name = key.name) :
    let found : FetchedRow :=
      ⟨row.map (·.name), row.map fun col => (col.stored s).cell.toValue⟩
    (World.run (client lib) (get c .none r) w).1 =
      some (.ok ((Record.scan r found.reader).record, (Record.scan r found.reader).outcome)) := by
  intro found
  have haskedMem : asked ∈ Record.row r c.dialect := List.mem_of_find?_eq_some hasked
  obtain ⟨st, laidOut⟩ : ∃ st, Statement.get .sqlite (Record.table r) (Record.row r c.dialect) =
      .ok st := by
    rw [Statement.get, Shape.getOf, requireKey, checkRow_eq_ok h.table (List.ne_nil_of_mem haskedMem),
      hasked]
    exact ⟨_, rfl⟩
  obtain rfl := Selection.get_eq_ofGet laidOut hasked
  rw [← dialect] at laidOut
  have hcells : [asked.value].map Cell.ofValue? = [asked.value.cell].map some := by
    rw [hvalue]
    cases u <;> rfl
  -- the request asks for the columns of the row by name, and for the number of its row
  have hfinds := finds_get (s := s) lawful h hnames haskedMem hvalue hmem generated hname
  have hends := serves.selects (q := .ofGet (Record.table r) (Record.row r c.dialect) asked) hrow hfinds
  obtain ⟨answer, hanswer⟩ :=
    serves.answers (q := .ofGet (Record.table r) (Record.row r c.dialect) asked) hrow hfinds
      rfl
  rw [← hcells] at hends hanswer
  obtain ⟨w', ⟨message, hrefused, -⟩ | ⟨reply, ⟨hreplyNames, hreplyRows, -⟩, hcall⟩⟩ :=
    call_queryFirst_cases (w := w) ⟨_, [asked.value]⟩ hends
  · exact absurd (hanswer.symm.trans hrefused) (by simp)
  · have hfound : reply.first? = some found := by
      rw [Reply.first?, hreplyNames, hreplyRows, List.map_singleton, List.map_map, List.map_map]
      show some (FetchedRow.mk ((Record.row r c.dialect).map (·.name)) _) = _
      rw [hnames]
      rfl
    rw [hfound] at hcall
    rw [run_get_of_found laidOut hcall]

end Served

end Operation

end RecordSql
