import RecordSql.Proofs.Embedded.Returned
import RecordSql.Proofs.Embedded.Stored
import RecordSql.Proofs.Insert

/-!
# Records with a generated key

A `Keyed` record has an integer key that the database generates, between fields whose columns have no
options.  An embedded database takes its columns as they are (`isStorable`).  What the columns store is
given back to the fields of any record of the type (`map_given_returned`), and each of them reads it
unless its value is lost (`isFaithful_returned`).
-/

namespace RecordSql

open Embedded

/-- A field whose column has no options, and the value that it holds: one of its type, and no double that
is not a number. -/
structure PlainField where
  name : String
  type : FieldType
  value : Value
  plain : IsPlainName name
  fits : type.Fits value
  number : value.isNaN = false

namespace PlainField

/-- The field of a record that holds the value `v` in it. -/
def field (f : PlainField) (v : Value) : Field :=
  ⟨f.type, v, some ⟨f.name, fun _ => none⟩⟩

/-- The column of the field when it holds the value `v`. -/
def column (f : PlainField) (v : Value) : Column :=
  ⟨f.name, v, none⟩

end PlainField

/-- A record with an integer key that the database generates, and with columns without options before
and after it. -/
structure Keyed where
  table : String
  before : List PlainField
  key : String
  keyType : IntType
  keyValue : Ranged keyType
  after : List PlainField
  plainTable : IsPlainName table
  plainKey : IsPlainName key

namespace Keyed

variable (r : Keyed)

/-- The fields besides the key. -/
def others : List PlainField :=
  r.before ++ r.after

/-! ### Lists along the fields -/

section Around

variable {α β : Type} (f : PlainField → α) (key : α)

/-- A list along the fields of the record, with `key` in the place of the key. -/
def around : List α :=
  r.before.map f ++ key :: r.after.map f

theorem mem_around {x : α} : x ∈ r.around f key ↔ x = key ∨ ∃ p ∈ r.others, f p = x := by
  rw [around, others, List.mem_append, List.mem_cons, List.mem_map, List.mem_map]
  simp only [List.mem_append]
  grind

theorem map_around (g : α → β) : (r.around f key).map g = r.around (fun p => g (f p)) (g key) := by
  rw [around, List.map_append, List.map_cons, List.map_map, List.map_map]
  rfl

theorem filterMap_around {g : α → Option β} {f' : PlainField → β} {key' : β}
    (hf : ∀ p, g (f p) = some (f' p)) (hkey : g key = some key') :
    (r.around f key).filterMap g = r.around f' key' := by
  have hplain (ps : List PlainField) : (ps.map f).filterMap g = ps.map f' := by
    have hmap : g ∘ f = some ∘ f' := funext hf
    rw [List.filterMap_map, hmap]
    exact congrFun List.filterMap_eq_map ps
  rw [around, List.filterMap_append, List.filterMap_cons_some hkey, hplain, hplain]
  rfl

end Around

/-! ### The records and their columns -/

variable (held : PlainField → Value)

/-- The same record with another key. -/
def withKey (n : Ranged r.keyType) : Keyed :=
  { r with keyValue := n }

/-- The field of the key. -/
def keyField : Field :=
  ⟨⟨.int r.keyType, false⟩, .int r.keyType r.keyValue, some ⟨r.key, fun d => some d.keyOptions⟩⟩

/-- The column of the key. -/
def keyColumn : Column :=
  ⟨r.key, .int r.keyType r.keyValue, some Dialect.sqlite.keyOptions⟩

/-- A record of the same type and with the same key, whose other fields hold the given values. -/
def holding : Entry :=
  ⟨r.table, r.around (fun p => p.field (held p)) r.keyField⟩

/-- The columns of that record. -/
def rowHolding : List Column :=
  r.around (fun p => p.column (held p)) r.keyColumn

/-- The record with the values of its fields. -/
def entry : Entry :=
  r.holding (·.value)

/-- The columns of the record. -/
def row : List Column :=
  r.rowHolding (·.value)

/-- The row of a record of the type, whatever its other fields hold. -/
theorem row_holding : Record.row (r.holding held) .sqlite = r.rowHolding held :=
  r.filterMap_around _ _ (fun _ => rfl) rfl

theorem row_entry {c : Config} (dialect : c.dialect = .sqlite) :
    Record.row r.entry c.dialect = r.row :=
  dialect ▸ r.row_holding _

theorem row_ne_nil : r.row ≠ [] :=
  List.append_ne_nil_of_right_ne_nil _ (List.cons_ne_nil _ _)

/-- The row of a record can be stored as it is: its names are plain, its columns have no options but
those of the key, and the key comes once. -/
theorem isStorable : IsStorable r.table r.row where
  table := r.plainTable
  names c hc := by
    obtain rfl | ⟨p, -, rfl⟩ := (r.mem_around _ _).mp hc
    · exact r.plainKey
    · exact p.plain
  ordinary c hc := by
    obtain rfl | ⟨p, -, rfl⟩ := (r.mem_around _ _).mp hc
    · exact Or.inr rfl
    · exact Or.inl rfl
  -- the key alone is generated
  one := by
    have hplain (ps : List PlainField) : (ps.map fun p => p.column p.value).Pairwise
        fun a b => a.noInsert = true → b.noInsert = false :=
      List.pairwise_map.mpr (List.pairwise_of_forall fun _ _ _ => rfl)
    refine List.pairwise_append.mpr ⟨hplain _, List.pairwise_cons.mpr ⟨?_, hplain _⟩, ?_⟩
    · intro c hc _
      obtain ⟨p, -, rfl⟩ := List.mem_map.mp hc
      rfl
    · intro c hc _ _ hgenerated
      obtain ⟨p, -, rfl⟩ := List.mem_map.mp hc
      cases hgenerated

/-- The key is found between the fields, since none of these is one. -/
theorem primaryKey?_rowHolding : primaryKey? (r.rowHolding held) = some r.keyColumn := by
  have hbefore : (r.before.map fun p => p.column (held p)).find? (·.isPrimaryKey) = none := by
    rw [List.find?_eq_none]
    intro c hc
    obtain ⟨p, -, rfl⟩ := List.mem_map.mp hc
    exact Bool.false_ne_true
  rw [primaryKey?, rowHolding, around, List.find?_append, hbefore]
  rfl

/-- An insert writes all fields but the key. -/
theorem written_row : Shape.written r.row = r.others.map fun p => p.column p.value := by
  have hplain (ps : List PlainField) :
      (ps.map fun p => p.column p.value).filter (!·.noInsert) = ps.map fun p => p.column p.value := by
    rw [List.filter_eq_self]
    intro c hc
    obtain ⟨p, -, rfl⟩ := List.mem_map.mp hc
    rfl
  have hkey : ¬ (!r.keyColumn.noInsert) = true := Bool.false_ne_true
  rw [Shape.written, row, rowHolding, around, List.filter_append,
    List.filter_cons_of_neg (p := fun c : Column => !c.noInsert) hkey, hplain, hplain, others,
    List.map_append]

/-! ### The record that is read back -/

/-- The record with the number of the first row as its key. -/
def numbered : Keyed :=
  r.withKey ⟨1, r.keyType.holds_one⟩

/-- The number of the first row fits every type that a key may have. -/
theorem answer_keyColumn : Key.answer r.keyColumn firstNumber = .ok r.numbered.keyColumn :=
  Key.answer_of_holds rfl r.keyType.holds_one

end Keyed

/-- A field without options that is read back into one that holds the value `held`. -/
def PlainField.returned (p : PlainField) (s : Storage) (held : Value) : Returned :=
  ⟨p.field held, p.value, (s.stored p.value).toValue⟩

/-- What the library gives back for a field is read as the value, unless that is lost. -/
theorem PlainField.isFaithful_returned {p : PlainField} {s : Storage} (lawful : s.IsLawful)
    (accepted : Cell.ofValue? p.value ≠ none) (held : Value) : (p.returned s held).IsFaithful where
  stored := Option.some_ne_none _
  read := FieldType.read_stored lawful p.fits p.number accepted

namespace Keyed

variable (r : Keyed) (s : Storage) (held : PlainField → Value)

/-- The key, given back as the number of the first row. -/
def keyReturned : Returned :=
  ⟨r.numbered.keyField, r.numbered.keyField.value, .int .i64 firstNumber⟩

/-- The number of the row is read as the key. -/
theorem isFaithful_keyReturned : r.keyReturned.IsFaithful where
  stored := Option.some_ne_none _
  read := by
    show Scalar.readInt r.keyType (.int .i64 firstNumber) = _
    rw [Scalar.readInt_of_denoted? (n := ⟨1, r.keyType.holds_one⟩) rfl]
    rfl

/-- The fields of the numbered record, read back into one that holds the given values. -/
def returned : List Returned :=
  r.around (fun p => p.returned s (held p)) r.keyReturned

theorem map_field_returned :
    (r.returned s held).map (·.field) = (r.numbered.holding held).fields :=
  r.map_around _ _ _

theorem map_filled_returned : (r.returned s held).map (·.filled) = r.numbered.entry.fields :=
  r.map_around _ _ _

theorem map_columnName_returned :
    (r.returned s held).map (·.field.columnName) = r.row.map (·.name) := by
  rw [returned, row, rowHolding, map_around, map_around]
  rfl

/-- The values of the fetched row are what the columns have stored. -/
theorem map_given_returned :
    (r.returned s held).map (·.given) = r.row.map fun c => (c.stored s).cell.toValue := by
  have hplain (p : PlainField) : ((p.column p.value).stored s).cell = s.stored p.value :=
    Column.stored_of_written rfl
  have hkey : (r.keyColumn.stored s).cell = .integer firstNumber := Column.stored_of_generated rfl
  rw [returned, row, rowHolding, map_around, map_around]
  simp only [hplain, hkey]
  rfl

theorem isFaithful_returned {s : Storage} (lawful : s.IsLawful)
    (accepted : ∀ p ∈ r.others, Cell.ofValue? p.value ≠ none) :
    ∀ p ∈ r.returned s held, p.IsFaithful := by
  intro p hp
  obtain rfl | ⟨f, hf, rfl⟩ := (r.mem_around _ _).mp hp
  · exact r.isFaithful_keyReturned
  · exact PlainField.isFaithful_returned lawful (accepted f hf) _

/-- What fetching the record comes to: the first of its values that is lost is reported. -/
def outcome : Except Fault Unit :=
  match r.others.find? (·.value.isLost) with
  | none => .ok ()
  | some p => .error (.decode p.name (FieldIssue.mismatch p.type.scalar .text).message)

/-- A record is read to its end exactly if none of its values is lost. -/
theorem outcome_eq_ok_iff : r.outcome = .ok () ↔ ∀ p ∈ r.others, p.value.isLost = false := by
  have hfind : r.others.find? (·.value.isLost) = none ↔ ∀ p ∈ r.others, p.value.isLost = false := by
    rw [List.find?_eq_none]
    exact forall₂_congr fun p _ => by rw [Bool.not_eq_true]
  rw [← hfind, outcome]
  cases r.others.find? (·.value.isLost) <;> simp

/-- The key does not end the scan, so the outcome is that of the other fields. -/
theorem outcome_returned : Returned.outcome (r.returned s held) = r.outcome := by
  have hplain (ps : List PlainField) :
      (ps.map fun p => p.returned s (held p)).find? (·.value.isLost) =
        (ps.find? (·.value.isLost)).map fun p => p.returned s (held p) := List.find?_map
  have hkey : ¬ r.keyReturned.value.isLost = true := Bool.false_ne_true
  have hfind : (r.returned s held).find? (·.value.isLost) =
      (r.others.find? (·.value.isLost)).map fun p => p.returned s (held p) := by
    rw [returned, around, List.find?_append,
      List.find?_cons_of_neg (p := fun p : Returned => p.value.isLost) hkey, hplain, hplain, others,
      List.find?_append, Option.map_or]
  rw [Returned.outcome, hfind, outcome]
  cases r.others.find? (·.value.isLost) <;> rfl

end Keyed

end RecordSql
