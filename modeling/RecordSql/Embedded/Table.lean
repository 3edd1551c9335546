import RecordSql.Embedded.Expression

/-!
# Tables

A table is a list of columns and a list of rows with numbers, the least number first.  A row without a
number of its own gets the number after the greatest one.  A column may be declared to be the number of
its row.

A row that is put into a table must have a cell in each required column, and in each unique column a
cell that no other row has there; nulls are never the same.
-/

namespace RecordSql.Embedded

/-- A row and its number. -/
structure NumberedRow where
  number : Ranged .i64
  cells : List Cell
deriving DecidableEq, Repr

/-- A table. -/
structure Table where
  name : String
  columns : List ColumnRule
  rows : List NumberedRow
deriving DecidableEq, Repr

namespace Table

/-- The place of the column with the given name. -/
def place (t : Table) (name : String) : Except Issue Place :=
  match t.columns.findIdx? fun c => sameName c.name name with
  | some index => .ok ⟨index, ((t.columns[index]?).map (·.affinity)).getD .blob⟩
  | none => .error (.noColumn name)

/-- The number after the greatest one. -/
def nextNumber (t : Table) : Except Issue (Ranged .i64) :=
  match Ranged.ofInt? .i64 ((t.rows.getLast?.map (·.number.val)).getD 0 + 1) with
  | some n => .ok n
  | none => .error .notRowNumber

/-- Puts a row into its place among rows with ascending numbers. -/
def insertRow (r : NumberedRow) : List NumberedRow → List NumberedRow
  | [] => [r]
  | s :: rows => if r.number.val < s.number.val then r :: s :: rows else s :: insertRow r rows

/-- The table without the rows that have the given number. -/
def without (t : Table) (number : Ranged .i64) : Table :=
  { t with rows := t.rows.filter (·.number != number) }

/-- The table with one more row. -/
def withRow (t : Table) (r : NumberedRow) : Table :=
  { t with rows := insertRow r t.rows }

/-- Gives a row its number: that of the column that is declared to hold it, or else `fallback`. -/
def numberRow (fallback : Except Issue (Ranged .i64)) :
    List (ColumnRule × Cell) → Except Issue NumberedRow
  | [] => do return ⟨← fallback, []⟩
  | (c, cell) :: rest => do
    if c.rowNumber then
      let number ← match cell with
        | .null => fallback
        | .integer n => .ok n
        | _ => .error .notRowNumber
      return ⟨number, .integer number :: rest.map (·.2)⟩
    else
      let r ← numberRow fallback rest
      return ⟨r.number, cell :: r.cells⟩

/-- The row that is stored when `cells` come into the columns of the table. -/
def storedRow (t : Table) (fallback : Except Issue (Ranged .i64)) (cells : List Cell) :
    Except Issue NumberedRow :=
  numberRow fallback (t.columns.zipWith (fun c cell => (c, cell.coerce c.affinity)) cells)

/-- Whether two rows cannot stand in one table because of a column. -/
def collides (c : ColumnRule) (index : Nat) (r s : NumberedRow) : Bool :=
  c.unique &&
    match r.cells[index]?, s.cells[index]? with
    | some a, some b => !a.isNull && !b.isNull && a.order b == .eq
    | _, _ => false

/-- The rows that a row with the given rule at `index` cannot stand beside. -/
def rivals (t : Table) (c : ColumnRule) (index : Nat) (r : NumberedRow) : List NumberedRow :=
  t.rows.filter (collides c index r)

/-- The first rule of the table that a row breaks, looked for from the column at `index` on. -/
def breach (t : Table) (r : NumberedRow) : Nat → List ColumnRule → Option Issue
  | _, [] => none
  | index, c :: rest =>
    if c.required && (r.cells[index]?).all (·.isNull) then some (.required t.name c.name)
    else if (t.rivals c index r).isEmpty then t.breach r (index + 1) rest
    else some (.notUnique t.name c.name)

/-- The table without the rows that `r` cannot stand beside. -/
def withoutRivals (t : Table) (r : NumberedRow) : Table :=
  t.columns.zipIdx.foldl
    (fun u (c, index) => (u.rivals c index r).foldl (fun u s => u.without s.number) u) t

/-- The row with the given number, and the table, after the row has been put into it; no row if it
was left out. -/
def put (t : Table) (onConflict : OnConflict) (r : NumberedRow) :
    Except Issue (Option NumberedRow × Table) :=
  let clear := match onConflict with
    | .replace => t.withoutRivals r
    | _ => t
  match clear.breach r 0 clear.columns, onConflict with
  | none, _ => .ok (some r, clear.withRow r)
  | some _, .ignore => .ok (none, t)
  | some issue, _ => .error issue

/-- The cells of a new row, in which a column that must have a cell falls back on its initial value if
the row is to be put in at any price. -/
def completed (t : Table) (onConflict : OnConflict) (cells : List Cell) : List Cell :=
  match onConflict with
  | .replace =>
    t.columns.zipWith (fun c cell => if c.required && cell.isNull then c.initial else cell) cells
  | _ => cells

/-- Puts cells into the table as a new row. -/
def add (t : Table) (onConflict : OnConflict) (cells : List Cell) :
    Except Issue (Option NumberedRow × Table) := do
  t.put onConflict (← t.storedRow t.nextNumber (t.completed onConflict cells))

/-- Puts rows into the table one after the other; answers with those that were not left out. -/
def addAll (t : Table) (onConflict : OnConflict) :
    List (List Cell) → Except Issue (List NumberedRow × Table)
  | [] => .ok ([], t)
  | cells :: rest => do
    let (added, t) ← t.add onConflict cells
    let (more, t) ← t.addAll onConflict rest
    return (added.toList ++ more, t)

/-- The rows that satisfy a condition. -/
def select (t : Table) (values : List Cell) (condition : Option (Expr Place)) : List NumberedRow :=
  t.rows.filter fun r => satisfies values r.cells condition

/-- The cells of a row after assignments, which all see the row as it was. -/
def assign (values : List Cell) (assigned : List (Place × Expr Place)) (cells : List Cell) :
    List Cell :=
  assigned.foldl (fun new (p, e) => new.set p.index (e.eval values cells)) cells

/-- The number of the row `r` after it has been overwritten, unless a column says it. -/
def keptNumber (t : Table) (r : NumberedRow) : Except Issue (Ranged .i64) :=
  if t.columns.any (·.rowNumber) then .error .notRowNumber else .ok r.number

/-- Overwrites rows one after the other. -/
def overwrite (t : Table) (values : List Cell) (assigned : List (Place × Expr Place)) :
    List NumberedRow → Except Issue Table
  | [] => .ok t
  | r :: rest => do
    let bare := t.without r.number
    let stored ← t.storedRow (t.keptNumber r) (assign values assigned r.cells)
    let (_, t) ← bare.put .abort stored
    t.overwrite values assigned rest

/-- The table without the given rows. -/
def removeAll (t : Table) (rows : List NumberedRow) : Table :=
  rows.foldl (fun u r => u.without r.number) t

end Table

end RecordSql.Embedded
