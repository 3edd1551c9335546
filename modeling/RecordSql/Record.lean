import RecordSql.Dialect
import RecordSql.FetchedRow

/-!
# Records

A record names its table, shows its fields as a row of columns, and takes the values of a fetched row
into its fields.  Scanning works field by field, so a scan that fails has already replaced the fields
before the one it failed at.

An `Entry` is a record given by a list of fields.  A field without a column is not stored: it is left
out of the row and untouched by a scan.
-/

namespace RecordSql

/-- What a scan leaves behind: the record, the reader, and whether every field was read. -/
structure Scanned (ρ : Type) where
  record : ρ
  reader : Reader
  outcome : Except Fault Unit

/-- A type whose values are stored as rows of a table. -/
class Record (ρ : Type) where
  /-- The table. -/
  table : ρ → String
  /-- The columns with the values of the fields, in an order that depends on the dialect alone. -/
  row : ρ → Dialect → List Column
  /-- The record with its fields read from a row. -/
  scan : ρ → Reader → Scanned ρ

/-- How a field is stored. -/
structure ColumnPlan where
  name : String
  options : Dialect → Option ColumnOptions

/-- A field of an entry: its type, the value it holds, and how it is stored. -/
structure Field where
  type : FieldType
  value : Value
  plan : Option ColumnPlan

/-- The column of a field that is stored. -/
def Field.column? (f : Field) (d : Dialect) : Option Column :=
  f.plan.map fun plan => ⟨plan.name, f.value, plan.options d⟩

/-- A record given by its fields. -/
structure Entry where
  table : String
  fields : List Field

namespace Entry

/-- Reads the stored fields of a list in turn, up to the first that cannot be read. -/
def scanFields : List Field → Reader → Scanned (List Field)
  | [], r => ⟨[], r, .ok ()⟩
  | f :: fs, r =>
    match f.plan with
    | none =>
      let rest := scanFields fs r
      { rest with record := f :: rest.record }
    | some _ =>
      match r.next f.type with
      | (.ok v, r) =>
        let rest := scanFields fs r
        { rest with record := { f with value := v } :: rest.record }
      | (.error e, r) => ⟨f :: fs, r, .error e⟩

/-- The values of the fields. -/
def values (e : Entry) : List Value :=
  e.fields.map (·.value)

instance : Record Entry where
  table e := e.table
  row e d := e.fields.filterMap (·.column? d)
  scan e r :=
    let scanned := scanFields e.fields r
    ⟨{ e with fields := scanned.record }, scanned.reader, scanned.outcome⟩

end Entry

end RecordSql
