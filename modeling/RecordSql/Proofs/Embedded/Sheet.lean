import RecordSql.Dialect
import RecordSql.Embedded.Cell
import RecordSql.Statement

/-!
# Statements on the table of a row

A column without options is declared with the type that its value calls for, and a generated key with
the type of generated keys.  So there are three declarations (`Column.sqlType_eq`), and the table of a
row is told by its headings.  The texts that create such a table and insert a row into it are spelled
out here, and are what the library sends (`createTable_eq`, `insert_eq_text`).
-/

namespace RecordSql

open Embedded

/-! ### Declared types -/

/-- How a column is declared. -/
inductive DeclaredType where
  /-- The column is the number of the row. -/
  | key
  | integers
  | texts
deriving DecidableEq, Repr

/-- The declared type. -/
def DeclaredType.sqlType : DeclaredType → String
  | key => "INTEGER PRIMARY KEY"
  | integers => "int"
  | texts => "varchar(255)"

/-- The cell that a value is bound as; null if there is none. -/
def Value.cell (v : Value) : Cell :=
  (Cell.ofValue? v).getD .null

/-- How the column of a value is declared that has no options. -/
def Value.declared (v : Value) : DeclaredType :=
  if v.kind.isInteger then .integers else .texts

/-- The type that a column gets for its value is the declared one. -/
theorem Value.inferredType_eq (v : Value) : v.inferredType = v.declared.sqlType := by
  rw [inferredType, declared]
  cases v.kind.isInteger <;> rfl

theorem Value.declared_ne_key (v : Value) : v.declared ≠ .key := by
  rw [declared]
  cases v.kind.isInteger <;> decide

/-! ### Headings and their cells -/

/-- A column of a table: its name, and how it is declared. -/
structure Heading where
  name : String
  type : DeclaredType
deriving DecidableEq, Repr

/-- Whether the column is the number of the row. -/
def Heading.isKey (h : Heading) : Bool :=
  h.type = .key

/-- A cell of a row under its heading. -/
structure HeadedCell extends Heading where
  cell : Cell
deriving DecidableEq, Repr

/-- The cells of a row that an insert brings: all but the number of the row. -/
def HeadedCell.written (row : List HeadedCell) : List HeadedCell :=
  row.filter (!·.isKey)

/-- The text that creates a table. -/
def createText (table : String) (headings : List Heading) : String :=
  "CREATE TABLE " ++ table ++ " (" ++ commas (headings.map fun h => h.name ++ " " ++ h.type.sqlType)
    ++ ")"

/-- The text that inserts a row into columns of the given names. -/
def insertText (table : String) (names : List String) : String :=
  "INSERT INTO " ++ table ++
    if names.isEmpty then " DEFAULT VALUES"
    else " (" ++ commas names ++ ") VALUES (" ++ commas (List.replicate names.length "?") ++ ")"

/-! ### The columns of a row -/

namespace Column

/-- Whether a column has no options, or is a key that the embedded database generates. -/
def IsOrdinary (c : Column) : Prop :=
  c.options = none ∨ c.options = some Dialect.sqlite.keyOptions

/-- How an ordinary column is declared. -/
def declared (c : Column) : DeclaredType :=
  if c.noInsert then .key else c.value.declared

/-- An ordinary column is declared by whether it is the key, and by its value otherwise. -/
theorem sqlType_eq {c : Column} (h : c.IsOrdinary) : c.sqlType = c.declared.sqlType := by
  rcases h with h | h
  · rw [sqlType, declared, noInsert, h]
    exact c.value.inferredType_eq
  · rw [sqlType, declared, noInsert, h]
    rfl

/-- The heading of an ordinary column. -/
def heading (c : Column) : Heading :=
  ⟨c.name, c.declared⟩

/-- The cell that the value of an ordinary column is bound as, under its heading. -/
def headedCell (c : Column) : HeadedCell :=
  ⟨c.heading, c.value.cell⟩

theorem isKey_heading (c : Column) : c.heading.isKey = c.noInsert := by
  rw [Heading.isKey, heading, declared]
  cases c.noInsert with
  | true => rfl
  | false => exact decide_eq_false c.value.declared_ne_key

/-- What an insert writes of a row are the cells that are not the number of the row. -/
theorem written_map_headedCell (row : List Column) :
    HeadedCell.written (row.map headedCell) = (Shape.written row).map headedCell := by
  have hwritten : (fun c : Column => !c.noInsert) = fun c => !(headedCell c).isKey :=
    funext fun c => congrArg (!·) c.isKey_heading.symm
  rw [HeadedCell.written, List.filter_map, Shape.written, hwritten]
  rfl

end Column

/-! ### Texts -/

/-- A table of ordinary columns is created by the text of its headings. -/
theorem createTable_eq {table sql : String} {row : List Column} (ordinary : ∀ c ∈ row, c.IsOrdinary)
    (h : Statement.createTable table row = .ok sql) : sql = createText table (row.map Column.heading) := by
  cases hcheck : checkRow table row with
  | error e =>
    rw [Statement.createTable, hcheck] at h
    cases h
  | ok _ =>
    rw [Statement.createTable, hcheck] at h
    have hcolumns : (row.map fun c => c.name ++ " " ++ c.sqlType) =
        (row.map Column.heading).map fun h => h.name ++ " " ++ h.type.sqlType := by
      rw [List.map_map]
      exact List.map_congr_left fun c hc => by rw [Column.sqlType_eq (ordinary c hc)]; rfl
    rw [createText, ← hcolumns]
    exact (Except.ok.inj h).symm

theorem markerList_eq (n : Nat) : Shape.markerList .sqlite n = commas (List.replicate n "?") := by
  have hmarkers : ((List.range n).map fun k => Dialect.sqlite.marker (k + 1)) =
      List.replicate n "?" := by
    refine List.eq_replicate_iff.mpr ⟨by rw [List.length_map, List.length_range], fun s hs => ?_⟩
    obtain ⟨k, -, rfl⟩ := List.mem_map.mp hs
    rfl
  rw [Shape.markerList, hmarkers]

/-- The text of an insert depends on nothing but the names of its columns. -/
theorem sql_insert (table : String) (written : List Column) :
    (Shape.insert table written none).sql .sqlite = insertText table (written.map (·.name)) := by
  show "INSERT INTO " ++ table
      ++ (if written.isEmpty then " DEFAULT VALUES"
        else " (" ++ nameList written ++ ") VALUES ("
          ++ Shape.markerList .sqlite written.length ++ ")") ++ "" = _
  rw [String.append_empty, insertText, markerList_eq, List.isEmpty_map, List.length_map]
  rfl

/-- An insert sends that text with the values of its columns. -/
theorem insert_eq_text {table : String} {row : List Column} {st : Statement}
    (h : Statement.insert .sqlite table row = .ok st) :
    st = ⟨insertText table ((Shape.written row).map (·.name)),
      (Shape.written row).map (·.value)⟩ := by
  cases hcheck : checkRow table row with
  | error e =>
    rw [Statement.insert, Shape.insertOf, hcheck] at h
    cases h
  | ok _ =>
    rw [Statement.insert, Shape.insertOf, hcheck] at h
    rw [← sql_insert]
    exact (Except.ok.inj h).symm

end RecordSql
