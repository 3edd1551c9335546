import RecordSql.Proofs.Declaration.Content
import RecordSql.Proofs.Declaration.Scanned
import RecordSql.Statement

/-!
# Records of a declared type

A `RecordType` is a declaration together with the types of its fields, and a record of the type has
a content for each of them.  Its mapping says how such a record is stored: the row has a column for
each field that is not skipped, in the order of the declaration.

Row and scan belong together (`scan_row`): the values of a row, scanned into another record of the
type, give it the contents of the first one in the fields that are stored, and leave the others
alone.  The statements that select records list the columns in that order, too.  What carries the
proof is that each stored field finds its value in the row, and a scan then gives it that value
(`RowType.scan_of_found`).
-/

namespace RecordSql.Declaration

/-- A field of a declaration and its type. -/
structure TypedField extends FieldDeclaration where
  type : FieldType
  tellsAbsence : type.TellsAbsence

/-- A declared record type with the types of its fields. -/
structure RecordType where
  name : String
  attributes : List Attribute
  arity : Nat
  field : Fin arity → TypedField

namespace RecordType

variable (T : RecordType)

/-- The declaration of the type. -/
def declaration : TypeDeclaration :=
  ⟨T.name, T.attributes,
    .named ((List.finRange T.arity).map fun i => (T.field i).toFieldDeclaration)⟩

/-- What a record of the type holds. -/
def Contents : Type :=
  (i : Fin T.arity) → (T.field i).type.Content

/-- The record with the given contents, stored as the mapping says. -/
def record (x : T.Contents) (m : Mapping) : Entry :=
  m.entry ((List.finRange T.arity).map fun i => ((T.field i).type, (T.field i).type.value (x i)))

/-- The field of a record with the given contents. -/
def fieldOf (x : T.Contents) (i : Fin T.arity) : Field :=
  (T.field i).mapped.field ((T.field i).type, (T.field i).type.value (x i))

/-- The fields that are stored, in order. -/
def stored : List (Fin T.arity) :=
  (List.finRange T.arity).filter fun i => !(T.field i).isSkipped

/-- The column of a field in the row of a record. -/
def column (x : T.Contents) (d : Dialect) (i : Fin T.arity) : Column :=
  ⟨(T.field i).columnName, (T.field i).type.value (x i),
    (FieldMarks.said (T.field i).items).steps.map (buildOptions · d)⟩

/-- The contents of `y` with those of `x` in the fields that are stored. -/
def overwritten (x y : T.Contents) : T.Contents :=
  fun i => if (T.field i).isSkipped then y i else x i

/-- The type with its fields as they are declared, whatever they tell of absence. -/
abbrev rowType : RowType :=
  ⟨T.name, T.attributes, T.arity, fun i => (T.field i).toFieldDeclaration,
    fun i => (T.field i).type⟩

/-- The values of the fields. -/
def values (x : T.Contents) : T.rowType.Values :=
  fun i => (T.field i).type.value (x i)

/-! ### Fields one by one -/

section Field

variable {T} {x y : T.Contents} {i : Fin T.arity}

/-- A field has the column of its content, unless it is skipped. -/
theorem column?_fieldOf (d : Dialect) :
    (T.fieldOf x i).column? d = if (T.field i).isSkipped then none else some (T.column x d i) := by
  unfold fieldOf FieldDeclaration.mapped MappedField.field Field.column?
  cases (T.field i).isSkipped <;> rfl

/-- A field takes the content of another record if it is stored. -/
theorem values_overwritten :
    T.values (T.overwritten x y) i =
      if (T.field i).isSkipped then T.values y i else T.values x i := by
  unfold values overwritten
  split <;> rfl

end Field

/-! ### Records -/

section Accepted

variable {T} {m : Mapping} (x y : T.Contents) (accepted : T.declaration.mapping = .ok m)
include accepted

/-- A record has the fields of its type, in order. -/
theorem record_eq : T.record x m = ⟨m.table, (List.finRange T.arity).map (T.fieldOf x)⟩ :=
  RowType.record_eq (T := T.rowType) accepted (T.values x)

/-- The row of a record has a column for each field that is stored, in order. -/
theorem row_record (d : Dialect) : Record.row (T.record x m) d = T.stored.map (T.column x d) := by
  rw [record_eq x accepted]
  show ((List.finRange T.arity).map (T.fieldOf x)).filterMap (·.column? d) = _
  rw [List.filterMap_map, stored, ← List.filterMap_eq_map, List.filterMap_filter]
  congr 1
  funext i
  rw [Function.comp, column?_fieldOf]
  cases (T.field i).isSkipped <;> rfl

/-- Records with different contents are different. -/
theorem record_inj {x y : T.Contents} : T.record x m = T.record y m ↔ x = y := by
  refine ⟨fun h => ?_, fun h => by rw [h]⟩
  rw [record_eq x accepted, record_eq y accepted, Entry.mk.injEq, List.map_inj_left] at h
  funext i
  have hfield : T.fieldOf x i = T.fieldOf y i := h.2 i (List.mem_finRange i)
  exact FieldType.value_injective (T.field i).tellsAbsence (congrArg Field.value hfield)

/-- The values of the row of `x`, scanned into `y`, leave the contents of `y` overwritten. -/
theorem scan_record (d : Dialect) (columns : List String) :
    let row : FetchedRow := ⟨columns, (Record.row (T.record x m) d).map (·.value)⟩
    Record.scan (T.record y m) row.reader =
      ⟨T.record (T.overwritten x y) m, ⟨row, row.values.length⟩, .ok ()⟩ := by
  intro row
  have hvalues : row.values = T.stored.map (T.values x) := by
    show (Record.row (T.record x m) d).map (·.value) = _
    rw [row_record x accepted, List.map_map]
    rfl
  -- which fields are stored does not depend on what they hold, so `y` reads what `x` has written
  have hfound (i : Fin T.arity) (isStored : (T.field i).isSkipped = false) :
      T.rowType.found row i = some (T.values x i) := by
    have hmem : i ∈ T.stored := List.mem_filter.mpr ⟨List.mem_finRange i, by rw [isStored]; rfl⟩
    have hvalue : row.values[T.stored.idxOf i]? = some (T.values x i) := by
      rw [hvalues, List.getElem?_map, List.getElem?_idxOf hmem]
      rfl
    show row.found (T.field i).type (T.stored.idxOf i) = _
    rw [FetchedRow.found, hvalue, Option.bind_some, values,
      FieldType.read_value (T.field i).tellsAbsence (x i)]
    rfl
  have hfilled : T.rowType.filled row T.arity (T.values y) = T.values (T.overwritten x y) := by
    funext i
    rw [values_overwritten]
    cases hskip : (T.field i).isSkipped with
    | true => exact RowType.filled_of_isSkipped hskip
    | false =>
      rw [RowType.filled_of_lt hskip i.isLt, hfound i hskip]
      rfl
  have hlength : row.values.length = T.stored.length := by
    rw [hvalues, List.length_map]
  have hscan := RowType.scan_of_found (T := T.rowType) accepted (T.values y)
    fun i isStored => ⟨_, hfound i isStored⟩
  rw [hlength]
  rw [hfilled] at hscan
  exact hscan

/-- **Row and scan are inverse to each other, and selections list the columns in their order.** -/
theorem scan_row (d : Dialect) (columns : List String) (clause : String) :
    let table := m.table
    let row := Record.row (T.record x m) d
    let names := T.stored.map fun i => (T.field i).columnName
    let scanned := Record.scan (T.record y m) (FetchedRow.reader ⟨columns, row.map (·.value)⟩)
    row = T.stored.map (T.column x d) ∧
      scanned.outcome = .ok () ∧ scanned.reader.remaining = 0 ∧
      (∀ z, scanned.record = T.record z m ↔
        ∀ i, z i = if (T.field i).isSkipped then y i else x i) ∧
      Statement.get d table row = (requireKey table row).map (fun key =>
        ⟨"SELECT " ++ commas names ++ " FROM " ++ table ++
          " WHERE " ++ key.name ++ "=" ++ d.marker 1, [key.value]⟩) ∧
      Statement.select table row clause = (checkRow table row).map fun _ =>
        "SELECT " ++ commas names ++ " FROM " ++ table ++
          (if clause.isEmpty then "" else " " ++ clause) := by
  intro table row names scanned
  have hrow : row = T.stored.map (T.column x d) := row_record x accepted d
  have hscan := scan_record x y accepted d columns
  have hnames : nameList row = commas names := by
    rw [hrow, nameList, List.map_map]
    rfl
  have hrecord : scanned.record = T.record (T.overwritten x y) m := congrArg Scanned.record hscan
  refine ⟨hrow, congrArg Scanned.outcome hscan, ?_, fun z => ?_, ?_, ?_⟩
  · rw [show scanned.reader = _ from congrArg Scanned.reader hscan]
    exact Nat.sub_self _
  · rw [hrecord, record_inj accepted, eq_comm]
    -- contents are functions of the fields
    exact funext_iff
  · rw [← hnames]
    unfold Statement.get Shape.getOf
    cases requireKey table row <;> rfl
  · rw [← hnames]
    unfold Statement.select
    cases checkRow table row <;> rfl

end Accepted

/-- A person with a name and a weight of its own keeps the portrait that it had. -/
theorem scan_row_person :
    let fields : List TypedField := [
      ⟨⟨"id", [.list [.word "auto_key"]]⟩, ⟨.int .i64, false⟩, by decide⟩,
      ⟨⟨"name", [.list [.word "column", .equals, .string "full_name"]]⟩, ⟨.text, false⟩, by decide⟩,
      ⟨⟨"portrait", [.list [.word "skip"]]⟩, ⟨.bytes, false⟩, by decide⟩,
      ⟨⟨"weight", []⟩, ⟨.float, true⟩, by decide⟩]
    let T : RecordType :=
      ⟨"Person", [.list [.word "table", .equals, .string "person"]], 4, fields.get⟩
    let m : Mapping := ⟨"person", [⟨"id", some ⟨"id", some [.start .generatedKey]⟩⟩,
      ⟨"name", some ⟨"full_name", none⟩⟩, ⟨"portrait", none⟩, ⟨"weight", some ⟨"weight", none⟩⟩]⟩
    let x : T.Contents := fun
      | 0 => (⟨7, by decide⟩ : Ranged .i64)
      | 1 => "Ada"
      | 2 => ([] : List UInt8)
      | 3 => (none : Option Number.Double)
    let y : T.Contents := fun
      | 0 => (⟨0, by decide⟩ : Ranged .i64)
      | 1 => ""
      | 2 => ([137, 80] : List UInt8)
      | 3 => some ⟨0⟩
    let z : T.Contents := fun
      | 0 => (⟨7, by decide⟩ : Ranged .i64)
      | 1 => "Ada"
      | 2 => ([137, 80] : List UInt8)
      | 3 => (none : Option Number.Double)
    let row : FetchedRow :=
      ⟨["id", "full_name", "weight"], [.int .i64 ⟨7, by decide⟩, .text "Ada", .null]⟩
    let scanned := Record.scan (T.record y m) row.reader
    T.declaration.mapping = .ok m ∧ (Record.row (T.record x m) .sqlite).map (·.value) = row.values ∧
      scanned.outcome = .ok () ∧ scanned.reader.remaining = 0 ∧ scanned.record = T.record z m := by
  intro fields T m x y z row scanned
  have accepted : T.declaration.mapping = .ok m := rfl
  have hvalues : (Record.row (T.record x m) .sqlite).map (·.value) = row.values := rfl
  obtain ⟨-, houtcome, hremaining, hrecord, -⟩ := scan_row x y accepted .sqlite row.columns ""
  rw [hvalues] at houtcome hremaining hrecord
  refine ⟨accepted, hvalues, houtcome, hremaining, (hrecord z).mpr fun i => ?_⟩
  match i with
  | 0 => rfl
  | 1 => rfl
  | 2 => rfl
  | 3 => rfl

end RecordType

end RecordSql.Declaration
