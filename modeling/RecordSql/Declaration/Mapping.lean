import RecordSql.Declaration.Attribute
import RecordSql.Record
import RecordSql.Text.SnakeCase

/-!
# Mappings

A declaration describes a record type: its name, its fields in order, and their attributes.  Its mapping
says in which table the records are stored and which column each field takes, if any.  The table is
named by an attribute, or else after the type in snake case; a column is named by an attribute, or else
as its field.

Options are planned step by step: a start that may depend on the dialect, then the marks, then a
declared type, which replaces that of the start.
-/

namespace RecordSql.Declaration

/-- What the options of a column start from. -/
inductive OptionStart where
  | plain
  | generatedKey
  | blob
deriving DecidableEq, Repr

/-- A step in building the options of a column. -/
inductive OptionStep where
  | start (s : OptionStart)
  | markPrimaryKey
  | markNoInsert
  | declareType (t : String)
deriving DecidableEq, Repr

/-- The options that a start stands for. -/
def OptionStart.options (d : Dialect) : OptionStart → ColumnOptions
  | plain => .plain
  | generatedKey => d.keyOptions
  | blob => d.blobOptions

/-- The options after one more step. -/
def OptionStep.apply (d : Dialect) (o : ColumnOptions) : OptionStep → ColumnOptions
  | start s => s.options d
  | markPrimaryKey => o.markPrimaryKey
  | markNoInsert => o.markNoInsert
  | declareType t => o.withType t

/-- The options that steps build. -/
def buildOptions (steps : List OptionStep) (d : Dialect) : ColumnOptions :=
  steps.foldl (OptionStep.apply d) .plain

/-- The steps that marks call for, if any. -/
def FieldMarks.steps (m : FieldMarks) : Option (List OptionStep) :=
  if !m.hasOptions then none
  else
    let start := if m.autoKey then .generatedKey else if m.blob then .blob else .plain
    some ([.start start]
      ++ (if m.primaryKey then [.markPrimaryKey] else [])
      ++ (if m.noInsert then [.markNoInsert] else [])
      ++ (m.sqlType.toList.map .declareType))

/-- A field of a declaration. -/
structure FieldDeclaration where
  ident : String
  attributes : List Attribute
deriving DecidableEq, Repr

/-- The form of a declared type. -/
inductive Form where
  | named (fields : List FieldDeclaration)
  /-- Fields without names, or none at all. -/
  | unnamed
  /-- Alternatives or overlapping fields. -/
  | notRecord
deriving DecidableEq, Repr

/-- The declaration of a record type. -/
structure TypeDeclaration where
  name : String
  attributes : List Attribute
  form : Form
deriving DecidableEq, Repr

/-- The column that a field is stored in. -/
structure MappedColumn where
  name : String
  steps : Option (List OptionStep)
deriving DecidableEq, Repr

/-- A field and its column, if it is stored. -/
structure MappedField where
  ident : String
  column : Option MappedColumn
deriving DecidableEq, Repr

/-- Where the records of a type are stored. -/
structure Mapping where
  table : String
  fields : List MappedField
deriving DecidableEq, Repr

/-- The mapping of a field. -/
def FieldDeclaration.mapping (f : FieldDeclaration) : Except Rejection MappedField := do
  let m ← FieldMarks.ofAttributes f.attributes
  if m.skip then return ⟨f.ident, none⟩
  else return ⟨f.ident, some ⟨m.column.getD f.ident, m.steps⟩⟩

/-- The mapping of a declared type. -/
def TypeDeclaration.mapping (t : TypeDeclaration) : Except Rejection Mapping :=
  match t.form with
  | .unnamed => .error .unnamedFields
  | .notRecord => .error .notRecord
  | .named fields => do
    let table ← tableOf none (← allItems t.attributes)
    let mapped ← fields.mapM FieldDeclaration.mapping
    return ⟨table.getD (Text.snakeCase t.name), mapped⟩

/-- The identifier of a field and its column, for each stored field. -/
def Mapping.stored (m : Mapping) : List (String × MappedColumn) :=
  m.fields.filterMap fun f => f.column.map (f.ident, ·)

/-- How a mapped column is stored. -/
def MappedColumn.plan (c : MappedColumn) : ColumnPlan :=
  ⟨c.name, fun d => c.steps.map (buildOptions · d)⟩

/-- The field with the given type and value, stored as the mapping says. -/
def MappedField.field (f : MappedField) (cell : FieldType × Value) : Field :=
  ⟨cell.1, cell.2, f.column.map (·.plan)⟩

/-- The record with the given field types and values. -/
def Mapping.entry (m : Mapping) (cells : List (FieldType × Value)) : Entry :=
  ⟨m.table, m.fields.zipWith MappedField.field cells⟩

end RecordSql.Declaration
