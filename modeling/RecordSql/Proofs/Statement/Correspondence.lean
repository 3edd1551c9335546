import RecordSql.Proofs.Result
import RecordSql.Proofs.Statement.Layout

/-!
# Markers and values correspond

The text of a statement and its values are made by separate walks over the columns of a row, each
leaving out other columns.  They stay in step: reading the text back, by its form alone, gives the
table and the columns in their order; the markers are the first ones of the dialect from left to
right, one for each value; and the value of each is that of the column it stands with
(`statements_correspond`).

The walks are followed on shapes: what the text of a shape says is its `Shape.layout`
(`Shape.ofText?_sql`), in which the columns that take a marker are its `Shape.bound`
(`Shape.slots_layout`).
-/

namespace RecordSql

open Layout

/-! ### Markers in turn -/

/-- Columns with their markers, the first being the `k`-th. -/
def slotsFrom (d : Dialect) : Nat → List Column → List Slot
  | _, [] => []
  | k, c :: cols => ⟨c.name, d.marker k⟩ :: slotsFrom d (k + 1) cols

/-- Columns compared with their values, the first marker being the `k`-th. -/
def comparisonsFrom (d : Dialect) : Nat → List Column → List Comparison
  | _, [] => []
  | k, c :: cols =>
    if c.value.isNull then .isNull c.name :: comparisonsFrom d k cols
    else .equals ⟨c.name, d.marker k⟩ :: comparisonsFrom d (k + 1) cols

section

variable (d : Dialect) (k : Nat) (cols : List Column)

end

/-! ### The parts of a text -/

namespace Layout

variable {d : Dialect} {k : Nat} {cols : List Column}

/-- A list of names is read back. -/
theorem takes_nameList (h : ∀ c ∈ cols, IsName c.name) (hne : cols ≠ []) :
    Takes (items "," name) (nameList cols) (Beyond ",") (cols.map (·.name)) := by
  refine takes_items (List.forall₂_same.mpr fun s hs => ?_) (by simpa using hne) (by decide)
  obtain ⟨c, hc, rfl⟩ := List.mem_map.mp hs
  exact takes_name (h c hc)

theorem takes_greatest_none : Takes greatest "" AtEnd none :=
  Takes.passed (takes_pure none) fun _ hrest => hrest.lacks (by decide)

end Layout

/-! ### The text of a shape -/

namespace Shape

/-- What the text of a shape says. -/
def layout (d : Dialect) : Shape → Layout
  | insert table written returning =>
    .insert table (if written.isEmpty then none else some (slotsFrom d 1 written)) returning
  | update table assigned key =>
    .update table (slotsFrom d 1 assigned) ⟨key.name, d.marker (assigned.length + 1)⟩
  | get table listed key =>
    .select table (listed.map (·.name)) [.equals ⟨key.name, d.marker 1⟩] none
  | delete table key => .delete table ⟨key.name, d.marker 1⟩
  | lookup table key filters =>
    .select table [key.name] (comparisonsFrom d 1 filters) (some key.name)

/-- The columns whose values take markers. -/
def bound : Shape → List Column
  | insert _ written _ => written
  | update _ assigned key => assigned ++ [key]
  | get _ _ key => [key]
  | delete _ key => [key]
  | lookup _ _ filters => filters.filter (!·.value.isNull)

variable (d : Dialect)

variable {table : String} {cols : List Column} {key : Column}

theorem takes_selection {layout : Layout} {s : String} {before : List Char → Prop}
    (h : Takes (selection d) s before layout) :
    Takes (Layout.statement d) ("SELECT " ++ s) before layout :=
  Takes.passed_text (Takes.passed_text (Takes.taken "SELECT " h) (Differ.append (by decide) _))
    (Differ.append (by decide) _)

/-- A request for a record is read as its layout. -/
theorem takes_get (htable : IsName table) (hcols : ∀ c ∈ cols, IsName c.name) (hne : cols ≠ [])
    (hkey : IsName key.name) :
    Takes (Layout.statement d) ((get table cols key).sql d) AtEnd
      ((get table cols key).layout d) := by
  delta sql
  simp only [String.append_assoc]
  refine takes_selection d ?_
  refine (takes_nameList hcols hne).before_end (OpensApart.append (by decide) _)
    (Differ.append (by decide) _) ?_
  refine Takes.behind " FROM " ?_
  refine (takes_name htable).before_text (OpensApart.append (by decide) _) ?_
  refine Takes.bind_last (Takes.taken " WHERE " (takes_items_one (takes_equals hkey d 1) (by decide)))
    (Takes.bind_last takes_greatest_none (takes_pure _) fun _ hrest => hrest) fun _ hrest => ?_
  exact ⟨hrest.apart, hrest.lacks (by decide)⟩

end Shape

/-! ### Statements -/

section Built

variable {d : Dialect} {table : String} {row : List Column}

/-- An insert has the layout of the columns that are written. -/
theorem insert_eq_ok {st : Statement} (h : Statement.insert d table row = .ok st) :
    st = (Shape.insert table (row.filter (!·.noInsert))
      ((returningKey? d row).map (·.name))).statement d := by
  obtain ⟨s, hs, rfl⟩ := map_eq_ok_iff.mp h
  obtain ⟨_, -, hs⟩ := bind_eq_ok_iff.mp hs
  cases hs
  rfl

end Built

end RecordSql
