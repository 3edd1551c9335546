import RecordSql.Embedded.Library
import RecordSql.Proofs.Embedded.Selection
import RecordSql.Proofs.Embedded.Storage

/-!
# What a library does

`Library.Serves` is what is documented of a library that the client relies on when it creates the table
of a record, inserts the record and reads it again.  A library may refuse any of these statements, by a
limit on their size for instance, except the one that reads a row by its key.  `Library.Takes` tells the
rows for which it refuses neither the insert nor a query by their cells.

Which tables a database has is told by `Tables`, since the files of a database are the library's own.
-/

namespace RecordSql

open Embedded

/-- What can be told of the tables of a database. -/
structure Tables (δ : Type) where
  /-- The table of the given name has these columns, and no rows. -/
  IsEmpty : δ → String → List Heading → Prop
  /-- The table of the given name has one row, which holds these cells. -/
  HasRow : δ → String → List HeadedCell → Prop

/-- Whether the names of a table are plain, and at most one of its columns is the number of the row. -/
structure IsPlainTable (table : String) (headings : List Heading) : Prop where
  table : IsPlainName table
  names : ∀ h ∈ headings, IsPlainName h.name
  nonempty : headings ≠ []
  one : headings.Pairwise fun a b => a.isKey = true → b.isKey = false

/-- The number of the first row of a table. -/
def firstNumber : Ranged .i64 := ⟨1, by decide⟩

/-- What the first row of a table holds of a cell that an insert brings. -/
def HeadedCell.stored (s : Storage) (x : HeadedCell) : HeadedCell :=
  { x with cell := if x.isKey then .integer firstNumber else s.keep x.type x.cell }

/-- Whether a condition is true of a row for the given parameters. -/
def Condition.IsTrueOf (s : Storage) (row : List HeadedCell) (params : List Cell) : Condition → Prop
  | isNull name => ∃ x ∈ row, x.name = name ∧ x.cell = .null
  | equals name k =>
    ∃ x ∈ row, x.name = name ∧ ∃ p, params[k - 1]? = some p ∧ s.Equal x.type x.cell p

/-- Whether a query asks for the cells `picked` of a row, by conditions that are true of it. -/
structure Selection.Finds (q : Selection) (s : Storage) (row picked : List HeadedCell) (params : List Cell) :
    Prop where
  plain : q.IsPlain
  count : params.length = q.markers
  picks : ∀ x ∈ picked, x ∈ row
  few : picked.length ≤ row.length
  names : q.names = picked.map (·.name)
  holds : ∀ c ∈ q.conditions, c.IsTrueOf s row params
  orders : ∀ name ∈ q.descending, ∃ x ∈ row, x.name = name

namespace Embedded

/-- Whether a statement ends, and `answered` is true of its answer if it has one. -/
def Ran.Ends {δ : Type} (ran : Ran δ) (answered : Reply → δ → Prop) : Prop :=
  ran.duration ≠ none ∧ ∀ reply, ran.result = .ok reply → answered reply ran.after

/-- What is documented of a library. -/
structure Library.Serves {δ : Type} (lib : Library δ) (s : Storage) (t : Tables δ) : Prop where
  /-- A statement is refused if one of its values has no cell. -/
  refuses : ∀ {db : δ} {sql : String} {cells : List (Option Cell)}, none ∈ cells →
    (lib.run sql cells db).Ends fun _ _ => False
  /-- A table that is created is empty. -/
  creates : ∀ {db : δ} {table : String} {headings : List Heading}, IsPlainTable table headings →
    (lib.run (createText table headings) [] db).Ends fun _ after => t.IsEmpty after table headings
  /-- The first row that is inserted into a table has the number one, and keeps its cells by their
  declared types.  The insert reports that number, and that it has touched one row. -/
  inserts : ∀ {db : δ} {table : String} {row : List HeadedCell},
    IsPlainTable table (row.map (·.toHeading)) → t.IsEmpty db table (row.map (·.toHeading)) →
    (lib.run (insertText table ((HeadedCell.written row).map (·.name)))
      ((HeadedCell.written row).map fun x => some x.cell) db).Ends fun reply after =>
        reply.rows = [] ∧ reply.inserted = some firstNumber ∧ lib.touched after = 1 ∧
          t.HasRow after table (row.map (HeadedCell.stored s))
  /-- A query whose conditions are true of the only row answers with its cells, and changes nothing. -/
  selects : ∀ {db : δ} {q : Selection} {row picked : List HeadedCell} {params : List Cell},
    t.HasRow db q.table row → q.Finds s row picked params →
    (lib.run q.text (params.map some) db).Ends fun reply after =>
      reply.names = q.names ∧ reply.rows = [picked.map (·.cell)] ∧ t.HasRow after q.table row
  /-- A query by a single condition is not refused. -/
  answers : ∀ {db : δ} {q : Selection} {row picked : List HeadedCell} {params : List Cell},
    t.HasRow db q.table row → q.Finds s row picked params → q.conditions.length = 1 →
    ∃ reply, (lib.run q.text (params.map some) db).result = .ok reply

/-- Whether a library refuses neither the insert of a row into its empty table, nor a query for the row
once it is there, by no more conditions than it has cells. -/
structure Library.Takes {δ : Type} (lib : Library δ) (s : Storage) (t : Tables δ) (table : String)
    (row : List HeadedCell) : Prop where
  inserts : ∀ {db : δ}, IsPlainTable table (row.map (·.toHeading)) →
    t.IsEmpty db table (row.map (·.toHeading)) → ∃ reply, (lib.run (insertText table ((HeadedCell.written row).map (·.name)))
      ((HeadedCell.written row).map fun x => some x.cell) db).result = .ok reply
  selects : ∀ {db : δ} {q : Selection} {picked : List HeadedCell} {params : List Cell},
    q.table = table → t.HasRow db table (row.map (HeadedCell.stored s)) →
    q.Finds s (row.map (HeadedCell.stored s)) picked params → q.conditions.length ≤ row.length →
    ∃ reply, (lib.run q.text (params.map some) db).result = .ok reply

end Embedded

end RecordSql
