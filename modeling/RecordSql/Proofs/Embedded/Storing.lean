import RecordSql.Embedded.Database
import RecordSql.Proofs.Embedded.Engine
import RecordSql.Proofs.Embedded.Laws
import RecordSql.Proofs.Embedded.Reading

/-!
# Rows that the databases in memory store

Creating a table and inserting a row leaves one row in the table: its number is one, and each column
keeps its cell by the affinity of its declared type (`run_insertCommand`).  The cells for the markers are
refused if one of the values has none (`bindCells_eq_error`).
-/

namespace RecordSql

open Embedded

/-! ### Lists of fallible steps -/

section Steps

variable {ε α β : Type} {f : α → Except ε β} {xs : List α}

theorem mapM_eq_ok {g : α → β} (h : ∀ x ∈ xs, f x = .ok (g x)) : xs.mapM f = .ok (xs.map g) := by
  induction xs with
  | nil => rfl
  | cons x xs ih =>
    obtain ⟨hx, hxs⟩ := List.forall_mem_cons.mp h
    rw [List.mapM_cons, hx, ih hxs]
    rfl

/-- The first step that fails decides, and all that fail say the same. -/
theorem mapM_eq_error {e : ε} (h : ∀ x ∈ xs, ∀ e', f x = .error e' → e' = e)
    (hx : ∃ x ∈ xs, ∃ e', f x = .error e') : xs.mapM f = .error e := by
  induction xs with
  | nil =>
    obtain ⟨x, hx, -⟩ := hx
    cases hx
  | cons x xs ih =>
    obtain ⟨hfirst, hrest⟩ := List.forall_mem_cons.mp h
    rw [List.mapM_cons]
    cases hf : f x with
    | error e' =>
      rw [hfirst e' hf]
      rfl
    -- what fails is further behind
    | ok b =>
      have hmem : ∃ x ∈ xs, ∃ e', f x = .error e' := by
        obtain ⟨y, hy, e', he'⟩ := hx
        rcases List.mem_cons.mp hy with rfl | hy
        · rw [hf] at he'
          cases he'
        · exact ⟨y, hy, e', he'⟩
      rw [ih hrest hmem]
      rfl

end Steps

/-! ### The values of the markers -/

namespace Embedded.Database

/-- The value of one marker. -/
def bindCell : Option Cell → Except Issue Cell
  | some c => .ok c.settled
  | none => .error .valueTooLarge

/-- Cells are bound one by one, and then counted. -/
theorem bindCells_eq (needed : Nat) (cells : List (Option Cell)) :
    bindCells needed cells = (cells.mapM bindCell).bind fun values =>
      if values.length ≠ needed then .error (.valueCount values.length needed) else .ok values := by
  have hbind : bindCell = fun
      | some c => .ok c.settled
      | none => .error Issue.valueTooLarge := by
    funext c
    cases c <;> rfl
  rw [hbind]
  rfl

/-- Cells for all values are bound as they are settled. -/
theorem bindCells_eq_ok (cells : List Cell) :
    bindCells cells.length (cells.map some) = .ok (cells.map Cell.settled) := by
  have hvalues : (cells.map some).mapM bindCell = .ok (cells.map Cell.settled) := by
    rw [List.mapM_map]
    exact mapM_eq_ok fun _ _ => rfl
  have hlength : ¬ (cells.map Cell.settled).length ≠ cells.length :=
    not_not.mpr (List.length_map _)
  rw [bindCells_eq, hvalues, Except.bind, if_neg hlength]

/-- A value without a cell is refused, whatever their number. -/
theorem bindCells_eq_error {cells : List (Option Cell)} (h : none ∈ cells) (needed : Nat) :
    bindCells needed cells = .error .valueTooLarge := by
  have hvalues : cells.mapM bindCell = .error .valueTooLarge := by
    refine mapM_eq_error (fun c _ e he => ?_) ⟨none, h, .valueTooLarge, rfl⟩
    cases c <;> cases he
    rfl
  rw [bindCells_eq, hvalues, Except.bind]

end Embedded.Database

/-! ### The table -/

namespace Embedded

theorem sameName_self (s : String) : sameName s s = true :=
  beq_self_eq_true _

/-- Names that are the same are the same as the same names. -/
theorem sameName_congr {s t : String} (h : sameName s t = true) (u : String) :
    sameName u s = sameName u t := by
  rw [sameName, beq_iff_eq] at h
  rw [sameName, sameName, h]

/-- How the databases in memory store cells, and compare them. -/
def storage : Storage where
  keep d c := c.settled.coerce d.affinity
  Equal d c p := Operand.compare .equal ⟨c, some d.affinity⟩ ⟨p.settled, none⟩ = some true

end Embedded

/-- Whether no two columns have the same name to the database. -/
def DistinctNames (headings : List Heading) : Prop :=
  headings.Pairwise fun a b => sameName a.name b.name = false

instance (headings : List Heading) : Decidable (DistinctNames headings) :=
  inferInstanceAs (Decidable (headings.Pairwise _))

/-- The table with the given columns and rows. -/
def tableOf (name : String) (headings : List Heading) (rows : List NumberedRow) : Table :=
  ⟨name, headings.map Heading.rule, rows⟩

/-- The type of generated keys is the only one that declares a key. -/
theorem keys_type (h : Heading) : h.type.keys = if h.isKey then 1 else 0 := by
  rw [Heading.isKey]
  cases h.type <;> rfl

section Places

variable {name : String} {headings : List Heading} {rows : List NumberedRow}

/-- No column in front of another has its name. -/
theorem name_ne_of_lt (distinct : DistinctNames headings) {i : Nat} {h : Heading}
    (hi : headings[i]? = some h) :
    ∃ hlt : i < headings.length, headings[i] = h ∧
      ∀ j (hj : j < i), sameName headings[j].name h.name = false := by
  obtain ⟨hlt, hh⟩ := List.getElem?_eq_some_iff.mp hi
  refine ⟨hlt, hh, fun j hj => ?_⟩
  have hne := List.pairwise_iff_getElem.mp distinct j i (by omega) hlt hj
  rwa [hh] at hne

/-- A column is found at its place. -/
theorem place_tableOf (distinct : DistinctNames headings) {i : Nat} {h : Heading}
    (hi : headings[i]? = some h) :
    (tableOf name headings rows).place h.name = .ok ⟨i, h.type.affinity⟩ := by
  obtain ⟨hlt, hh, hfront⟩ := name_ne_of_lt distinct hi
  have hfind : (headings.map Heading.rule).findIdx? (fun r => sameName r.name h.name) = some i := by
    rw [List.findIdx?_map, List.findIdx?_eq_some_iff_getElem]
    refine ⟨hlt, ?_, fun j hj => Bool.eq_false_iff.mp (hfront j hj)⟩
    rw [hh]
    exact sameName_self h.name
  rw [Table.place, tableOf, hfind]
  show Except.ok (Place.mk i ((((headings.map Heading.rule)[i]?).map (·.affinity)).getD .blob)) = _
  rw [List.getElem?_map, hi]
  rfl

end Places

/-! ### The stored row -/

section Insert

variable {name : String} {row : List HeadedCell}

/-- The cells that a row brings, null in the place of the number of the row. -/
def HeadedCell.brought (x : HeadedCell) : Cell :=
  if x.isKey then .null else x.cell.settled

/-- The cells of a row that are written, with their places. -/
def writtenPlaces (row : List HeadedCell) : List (HeadedCell × Nat) :=
  row.zipIdx.filter fun p => !p.1.isKey

/-- The places that an insert fills are those of its written cells. -/
theorem map_fst_writtenPlaces (row : List HeadedCell) :
    (writtenPlaces row).map Prod.fst = HeadedCell.written row := by
  have hrow := congrArg (List.filter fun x : HeadedCell => !x.isKey) (List.zipIdx_map_fst 0 row)
  rw [List.filter_map] at hrow
  exact hrow

/-- Cells are set one after the other, into a row that is done up to some place. -/
theorem foldr_set_zipIdx (row : List HeadedCell) (done : List Cell) :
    ((row.zipIdx done.length).filter fun p => !p.1.isKey).foldr
        (fun p cells => cells.set p.2 p.1.cell.settled) (done ++ row.map fun _ => .null) =
      done ++ row.map HeadedCell.brought := by
  induction row generalizing done with
  | nil => rfl
  | cons x row ih =>
    have hrest := ih (done ++ [.null])
    rw [List.length_append, List.length_singleton, List.append_assoc, List.append_assoc,
      List.singleton_append, List.singleton_append] at hrest
    rw [List.zipIdx_cons, List.map_cons, List.map_cons, HeadedCell.brought]
    -- the number of the row is not filled in, so its place stays null
    cases hx : x.isKey with
    | true =>
      rw [List.filter_cons_of_neg (by rw [hx]; decide), hrest]
      rfl
    | false =>
      rw [List.filter_cons_of_pos (by rw [hx]; rfl), List.foldr_cons, hrest,
        List.set_append_right _ _ (Nat.le_refl _), Nat.sub_self]
      rfl

/-- The cells of the written columns come to their places. -/
theorem spread_tableOf (rows : List NumberedRow) :
    Database.spread (tableOf name (row.map (·.toHeading)) rows)
        ((writtenPlaces row).map fun p => ⟨p.2, p.1.type.affinity⟩)
        ((HeadedCell.written row).map (·.cell.settled)) = row.map HeadedCell.brought := by
  have hcells := foldr_set_zipIdx row []
  rw [← map_fst_writtenPlaces, List.map_map, Database.spread, List.zip_map', List.foldl_reverse,
    List.foldr_map]
  have hinitial : (tableOf name (row.map (·.toHeading)) rows).columns.map (·.initial) =
      row.map fun _ => .null := by
    rw [tableOf, List.map_map, List.map_map]
    rfl
  rw [hinitial]
  exact hcells

/-- The first row of the table. -/
def firstRow (row : List HeadedCell) : NumberedRow :=
  ⟨firstNumber, row.map fun x => (x.stored storage).cell⟩

/-- A row gets its number, and the column that is the number holds it. -/
theorem numberRow_eq_ok
    (one : row.Pairwise fun a b => a.isKey = true → b.isKey = false) (n : Ranged .i64)
    (cell : HeadedCell → Cell) (hnull : ∀ x ∈ row, x.isKey = true → cell x = .null) :
    Table.numberRow (.ok n) (row.map fun x => (x.rule, cell x)) =
      .ok ⟨n, row.map fun x => if x.isKey then .integer n else cell x⟩ := by
  induction row with
  | nil => rfl
  | cons x row ih =>
    obtain ⟨hothers, one⟩ := List.pairwise_cons.mp one
    obtain ⟨hx, hnull⟩ := List.forall_mem_cons.mp hnull
    have hnumber : x.rule.rowNumber = x.isKey := rfl
    rw [List.map_cons, Table.numberRow, hnumber, List.map_cons]
    cases hkey : x.isKey with
    -- no other column is the number of the row
    | true =>
      have hrest : row.map (fun x => if x.isKey then .integer n else cell x) = row.map cell :=
        List.map_congr_left fun y hy => if_neg (Bool.eq_false_iff.mp (hothers y hy hkey))
      rw [hx hkey, hrest, List.map_map]
      rfl
    | false =>
      rw [ih one hnull]
      rfl

/-- The first row of an empty table gets the number one, and its cells by the affinities of the
columns. -/
theorem storedRow_tableOf (one : row.Pairwise fun a b => a.isKey = true → b.isKey = false) :
    (tableOf name (row.map (·.toHeading)) []).storedRow
        (tableOf name (row.map (·.toHeading)) []).nextNumber (row.map HeadedCell.brought) =
      .ok (firstRow row) := by
  have hcells : ((row.map (·.toHeading)).map Heading.rule).zipWith
      (fun c cell => (c, cell.coerce c.affinity)) (row.map HeadedCell.brought) =
      row.map fun x => (x.rule, x.brought.coerce x.type.affinity) := by
    rw [List.map_map, List.zipWith_map, List.zipWith_self]
    rfl
  -- nothing has been brought for the number of the row
  have hnull : ∀ x ∈ row, x.isKey = true → x.brought.coerce x.type.affinity = .null := by
    intro x _ hx
    rw [HeadedCell.brought, if_pos hx]
    exact Cell.coerce_null _
  show Table.numberRow (.ok firstNumber) (((row.map (·.toHeading)).map Heading.rule).zipWith _ _) = _
  rw [hcells, numberRow_eq_ok one firstNumber _ hnull]
  refine congrArg (fun cells => Except.ok (NumberedRow.mk firstNumber cells)) ?_
  refine List.map_congr_left fun x _ => ?_
  show _ = if x.isKey then Cell.integer firstNumber else x.cell.settled.coerce x.type.affinity
  cases hx : x.isKey with
  | true => rfl
  | false => rw [HeadedCell.brought, hx]; rfl

/-- Nothing is required, and an empty table has no row to collide with. -/
theorem breach_tableOf (headings : List Heading) (r : NumberedRow) (index : Nat)
    (cols : List Heading) :
    (tableOf name headings []).breach r index (cols.map Heading.rule) = none := by
  induction cols generalizing index with
  | nil => rfl
  | cons c cols ih =>
    rw [List.map_cons, Table.breach]
    exact ih (index + 1)

/-- The row comes into the empty table. -/
theorem addAll_tableOf (one : row.Pairwise fun a b => a.isKey = true → b.isKey = false) :
    (tableOf name (row.map (·.toHeading)) []).addAll .abort [row.map HeadedCell.brought] =
      .ok ([firstRow row], tableOf name (row.map (·.toHeading)) [firstRow row]) := by
  have hadd : (tableOf name (row.map (·.toHeading)) []).add .abort (row.map HeadedCell.brought) =
      .ok (some (firstRow row), tableOf name (row.map (·.toHeading)) [firstRow row]) := by
    show ((tableOf name (row.map (·.toHeading)) []).storedRow
      (tableOf name (row.map (·.toHeading)) []).nextNumber (row.map HeadedCell.brought)).bind
      ((tableOf name (row.map (·.toHeading)) []).put .abort) = _
    rw [storedRow_tableOf one, Except.bind]
    have hbreach : (tableOf name (row.map (·.toHeading)) []).breach (firstRow row) 0
        (tableOf name (row.map (·.toHeading)) []).columns = none :=
      breach_tableOf _ (firstRow row) 0 _
    rw [Table.put.eq_def]
    dsimp only
    rw [hbreach]
    rfl
  rw [Table.addAll, hadd]
  rfl

end Insert

/-! ### Commands -/

namespace Embedded.Database

variable {db : Database} {name : String} {headings : List Heading}

/-- A table that takes the place of another is found by its name. -/
theorem table_withTable {t u : Table} (h : db.table name = .ok t) (hname : u.name = t.name)
    (touched : Nat) : (db.withTable u touched).table name = .ok u := by
  have hfind : db.tables.find? (fun t => sameName t.name name) = some t := by
    rw [table] at h
    cases hfind : db.tables.find? fun t => sameName t.name name with
    | none =>
      rw [hfind] at h
      cases h
    | some v =>
      rw [hfind] at h
      cases h
      rfl
  have ht := List.find?_some hfind
  -- the new table has the name of the old one, so the search stops at the same place
  have hsame : ((fun v : Table => sameName v.name name) ∘
      fun v => if sameName v.name u.name then u else v) = fun v => sameName v.name name := by
    funext v
    rw [Function.comp, hname, sameName_congr ht]
    cases hv : sameName v.name name with
    | true => rw [if_pos rfl, hname, ht]
    | false => rw [if_neg Bool.false_ne_true, hv]
  have hself : sameName t.name u.name = true := by rw [hname, sameName_self]
  unfold Database.table Database.withTable
  dsimp only
  rw [List.find?_map, hsame, hfind, Option.map_some, if_pos hself]

/-- Columns pass if the table has room for them, and each has a name that stands nowhere in front of
it. -/
theorem checkColumns_eq_ok_iff {front names : List String} (hfront : front.length ≤ maxColumns) :
    checkColumns name front names = .ok () ↔
      front.length + names.length ≤ maxColumns ∧
        (∀ s ∈ names, ∀ t ∈ front, sameName t s = false) ∧
          names.Pairwise fun a b => sameName a b = false := by
  induction names generalizing front with
  | nil => exact iff_of_true rfl ⟨hfront, fun _ h => absurd h List.not_mem_nil, List.Pairwise.nil⟩
  | cons s names ih =>
    rw [checkColumns, List.length_cons, List.forall_mem_cons, List.pairwise_cons]
    by_cases hfull : maxColumns ≤ front.length
    · rw [if_pos hfull]
      exact iff_of_false (fun h => by cases h) fun h => by omega
    rw [if_neg hfull]
    cases hany : front.any fun t => sameName t s with
    | true =>
      obtain ⟨t, ht, hsame⟩ := List.any_eq_true.mp hany
      refine iff_of_false (fun h => by cases h) fun h => ?_
      exact absurd (h.2.1.1 t ht) (by rw [hsame]; decide)
    | false =>
      -- the name joins those in front of the rest
      have hdiffers : ∀ t ∈ front, sameName t s = false := fun t ht =>
        Bool.not_eq_true _ ▸ List.any_eq_false.mp hany t ht
      have hroom : (s :: front).length ≤ maxColumns := Nat.not_le.mp hfull
      rw [if_neg Bool.false_ne_true, ih hroom, List.length_cons]
      simp only [List.forall_mem_cons]
      constructor
      · rintro ⟨hfew, hnames, hrest⟩
        exact ⟨by omega, ⟨hdiffers, fun u hu => (hnames u hu).2⟩, fun u hu => (hnames u hu).1, hrest⟩
      · rintro ⟨hfew, ⟨-, hnames⟩, hs, hrest⟩
        exact ⟨by omega, fun u hu => ⟨hs u hu, hnames u hu⟩, hrest⟩

/-- The columns of a table pass if there are not too many of them and their names are different. -/
theorem checkColumns_nil_eq_ok_iff {names : List String} :
    checkColumns name [] names = .ok () ↔
      names.length ≤ maxColumns ∧ names.Pairwise fun a b => sameName a b = false := by
  rw [checkColumns_eq_ok_iff (Nat.zero_le _), List.length_nil, Nat.zero_add]
  exact and_congr_right fun _ => and_iff_right fun _ _ _ h => absurd h List.not_mem_nil

/-- A table that has been created is there, without rows, and its columns are not too many and have
different names. -/
theorem createTable_eq_ok {after : Database} {columns : List ColumnRule} {keys : Nat}
    (h : db.createTable name columns keys false = .ok after) :
    columns.length ≤ maxColumns ∧ (columns.map (·.name)).Pairwise (fun a b => sameName a b = false) ∧
      after.table name = .ok ⟨name, columns, []⟩ := by
  rw [createTable] at h
  split at h
  · cases h
  split at h
  · cases h
  rename_i habsent
  split at h
  · cases h
  cases hcheck : checkColumns name [] (columns.map (·.name)) with
  | error issue =>
    rw [hcheck] at h
    cases h
  | ok _ =>
    rw [hcheck] at h
    cases h
    obtain ⟨hfew, hdistinct⟩ := checkColumns_nil_eq_ok_iff.mp hcheck
    rw [List.length_map] at hfew
    refine ⟨hfew, hdistinct, ?_⟩
    -- no other table has the name, so the new one is found
    have hnone : db.tables.find? (fun t => sameName t.name name) = none := by
      rw [Bool.not_eq_true, List.any_eq_false] at habsent
      exact List.find?_eq_none.mpr habsent
    rw [table, List.find?_append, hnone, List.find?_cons_of_pos (by exact sameName_self name)]
    rfl

theorem foldl_keys_of_not_key (h : ∀ x ∈ headings, x.isKey = false) (n : Nat) :
    (rulesOf headings).foldl (fun count c => count + c.2) n = n := by
  induction headings with
  | nil => rfl
  | cons x headings ih =>
    obtain ⟨hx, hheadings⟩ := List.forall_mem_cons.mp h
    show (rulesOf headings).foldl _ (n + x.type.keys) = n
    rw [keys_type, hx]
    exact ih hheadings

/-- Columns of which at most one is the number of the row count for at most one key. -/
theorem foldl_keys_le (one : headings.Pairwise fun a b => a.isKey = true → b.isKey = false) (n : Nat) :
    (rulesOf headings).foldl (fun count c => count + c.2) n ≤ n + 1 := by
  induction headings with
  | nil => exact Nat.le_succ n
  | cons x headings ih =>
    obtain ⟨hx, hheadings⟩ := List.pairwise_cons.mp one
    show (rulesOf headings).foldl _ (n + x.type.keys) ≤ n + 1
    rw [keys_type]
    cases hkey : x.isKey with
    | true =>
      -- no other column is the number
      rw [foldl_keys_of_not_key fun y hy => hx y hy hkey]
      exact Nat.le_refl _
    | false => exact ih hheadings

theorem map_fst_rulesOf (headings : List Heading) :
    (rulesOf headings).map (·.1) = headings.map Heading.rule := by
  rw [rulesOf, List.map_map]
  rfl

/-- A table is created if there is none of its name. -/
theorem run_createCommand_of_new (plain : IsPlainTable name headings)
    (few : headings.length ≤ maxColumns) (distinct : DistinctNames headings)
    (internal : isInternal name = false) (new : ∀ t ∈ db.tables, sameName t.name name = false) (values : List Cell) :
    db.run values (createCommand name headings) =
      ⟨.ok .empty, { db with tables := db.tables ++ [tableOf name headings []] }, some 0⟩ := by
  have hany : db.tables.any (fun t => sameName t.name name) = false := by
    rw [List.any_eq_false]
    exact fun t ht => Bool.eq_false_iff.mp (new t ht)
  have hkeys : ¬ 1 < (rulesOf headings).foldl (fun count c => count + c.2) 0 :=
    Nat.not_lt.mpr (foldl_keys_le plain.one 0)
  have hcheck : checkColumns name [] ((headings.map Heading.rule).map (·.name)) = .ok () := by
    rw [checkColumns_nil_eq_ok_iff, List.map_map, List.pairwise_map, List.length_map]
    exact ⟨few, distinct⟩
  have hcreate : db.createTable name (headings.map Heading.rule)
      ((rulesOf headings).foldl (fun count c => count + c.2) 0) false =
        .ok { db with tables := db.tables ++ [tableOf name headings []] } := by
    rw [createTable, internal, hany, if_neg Bool.false_ne_true, if_neg Bool.false_ne_true,
      if_neg hkeys, hcheck]
    rfl
  rw [createCommand, map_fst_rulesOf, run]
  dsimp only
  rw [hcreate]
  rfl

/-- If it answers, the statement that creates a table has created it. -/
theorem run_createCommand (db : Database) (name : String) (headings : List Heading)
    (values : List Cell) :
    ∃ result after, db.run values (createCommand name headings) = ⟨result, after, some 0⟩ ∧
      ∀ reply, result = .ok reply →
        headings.length ≤ maxColumns ∧ DistinctNames headings ∧
          after.table name = .ok (tableOf name headings []) := by
  rw [createCommand, map_fst_rulesOf, run]
  cases hcreate : db.createTable name (headings.map Heading.rule)
      ((rulesOf headings).foldl (fun count c => count + c.2) 0) false with
  | error issue => exact ⟨_, _, rfl, fun _ h => by cases h⟩
  | ok created =>
    refine ⟨_, _, rfl, fun _ _ => ?_⟩
    obtain ⟨hfew, hdistinct, htable⟩ := createTable_eq_ok hcreate
    rw [List.length_map] at hfew
    rw [List.map_map, List.pairwise_map] at hdistinct
    exact ⟨hfew, hdistinct, htable⟩

/-- Markers stand for their values. -/
theorem mapM_markerExprs (values : List Cell) :
    (markerExprs values.length).mapM (fun e => do return (← unit.resolve e).eval values []) =
      .ok values := by
  have hvalues : (List.range' 1 values.length).map (fun k => (values[k - 1]?).getD .null) = values := by
    refine List.ext_getElem (by simp) fun i _ hi => ?_
    rw [List.getElem_map, List.getElem_range', Nat.one_mul, Nat.add_sub_cancel_left,
      List.getElem?_eq_getElem hi, Option.getD_some]
  rw [markerExprs, List.mapM_map]
  exact (mapM_eq_ok fun _ _ => rfl).trans (congrArg Except.ok hvalues)

/-- The parameters of an insert come in as its only row. -/
theorem incoming_markers (values : List Cell) :
    db.incoming values values.length (.tuples [markerExprs values.length]) = .ok [values] := by
  have hwidth : ([markerExprs values.length].find? fun row => decide (row.length ≠ values.length)) =
      none := by
    rw [List.find?_eq_none]
    intro row hrow
    rw [List.mem_singleton.mp hrow, markerExprs, List.length_map, List.length_range']
    simp
  rw [incoming, hwidth, List.mapM_cons, mapM_markerExprs]
  rfl

/-- **The row comes into its table.** -/
theorem run_insertCommand {row : List HeadedCell}
    (htable : db.table name = .ok (tableOf name (row.map (·.toHeading)) []))
    (distinct : DistinctNames (row.map (·.toHeading)))
    (one : row.Pairwise fun a b => a.isKey = true → b.isKey = false) :
    db.run ((HeadedCell.written row).map (·.cell.settled))
        (insertCommand name ((HeadedCell.written row).map (·.name))) =
      ⟨.ok ⟨[], [], some firstNumber⟩,
        db.withTable (tableOf name (row.map (·.toHeading)) [firstRow row]) 1, some 0⟩ := by
  have hspread : Database.spread (tableOf name (row.map (·.toHeading)) [])
      ((writtenPlaces row).map fun p => ⟨p.2, p.1.type.affinity⟩)
      ((HeadedCell.written row).map (·.cell.settled)) = row.map HeadedCell.brought := spread_tableOf []
  -- an insert without columns brings a row of its own, without markers
  by_cases hwritten : HeadedCell.written row = []
  · have hplaces : writtenPlaces row = [] := by
      rw [← List.map_eq_nil_iff (f := Prod.fst), map_fst_writtenPlaces, hwritten]
    rw [hplaces, hwritten, List.map_nil, List.map_nil] at hspread
    rw [hwritten]
    show db.finished ((db.table name).bind fun t =>
      (t.addAll .abort [spread t [] []]).bind fun p =>
        .ok (⟨[], [], p.1.getLast?.map (·.number)⟩, db.withTable p.2 p.1.length)) = _
    rw [htable, Except.bind, hspread, addAll_tableOf one]
    rfl
  · have hplaces : ((HeadedCell.written row).map (·.name)).mapM
        (tableOf name (row.map (·.toHeading)) []).place =
          .ok ((writtenPlaces row).map fun p => ⟨p.2, p.1.type.affinity⟩) := by
      rw [← map_fst_writtenPlaces, List.map_map, List.mapM_map]
      refine mapM_eq_ok fun p hp => place_tableOf (h := p.1.toHeading) distinct ?_
      have hplace := List.mem_zipIdx_iff_getElem?.mp (List.mem_filter.mp hp).1
      rw [List.getElem?_map, hplace]
      rfl
    have hempty : ((HeadedCell.written row).map (·.name)).isEmpty = false := by simpa using hwritten
    have hlength : ((writtenPlaces row).map fun p => (Place.mk p.2 p.1.type.affinity)).length =
        ((HeadedCell.written row).map (·.cell.settled)).length := by
      rw [← map_fst_writtenPlaces]
      simp
    have hmarkers : ((HeadedCell.written row).map (·.name)).length =
        ((HeadedCell.written row).map (·.cell.settled)).length := by simp
    rw [insertCommand, hempty, if_neg Bool.false_ne_true, hmarkers]
    generalize hvalues : (HeadedCell.written row).map (·.cell.settled) = values at *
    show db.finished ((db.table name).bind fun t =>
      (((HeadedCell.written row).map (·.name)).mapM t.place).bind fun places =>
      (db.incoming values places.length (.tuples [markerExprs values.length])).bind fun rows =>
      (t.addAll .abort (rows.map (spread t places))).bind fun p =>
        .ok (⟨[], [], p.1.getLast?.map (·.number)⟩, db.withTable p.2 p.1.length)) = _
    rw [htable, Except.bind, hplaces, Except.bind, hlength, incoming_markers, Except.bind,
      List.map_singleton, hspread, addAll_tableOf one]
    rfl

end Embedded.Database

end RecordSql
