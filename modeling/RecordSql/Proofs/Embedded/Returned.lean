import RecordSql.Proofs.Embedded.ReadBack
import RecordSql.Proofs.Scan

/-!
# Fields that are read back

A fetched row gives every stored field a value.  If each field reads what it is given as the value that
has been stored for it, or not at all because that is lost, then the scan of the fields fills them up to
the first lost value, and reports that (`scanFields_returned`).
-/

namespace RecordSql

/-- The name of the column of a field. -/
def Field.columnName (f : Field) : String :=
  (f.plan.map (·.name)).getD ""

/-- A field that is read back: the value that has been stored for it, and what the database gives for
that. -/
structure Returned where
  field : Field
  value : Value
  given : Value

namespace Returned

variable (p : Returned) (ps : List Returned)

/-- The field with the value that has been stored for it. -/
def filled : Field :=
  { p.field with value := p.value }

/-- The fault of a field whose value is lost. -/
def fault : Fault :=
  .decode p.field.columnName (FieldIssue.mismatch p.field.type.scalar .text).message

/-- Whether the field is stored, and what is given for it is read as the value unless that is lost. -/
structure IsFaithful : Prop where
  stored : p.field.plan ≠ none
  read : p.field.type.read p.given =
    if p.value.isLost then .error (.mismatch p.field.type.scalar .text) else .ok p.value

/-- What reading the fields back comes to: the first one whose value is lost is reported. -/
def outcome : Except Fault Unit :=
  match ps.find? (·.value.isLost) with
  | none => .ok ()
  | some p => .error p.fault

variable {p} in
/-- The first value that is lost ends the scan with its fault. -/
theorem outcome_cons_of_isLost (h : p.value.isLost = true) : outcome (p :: ps) = .error p.fault := by
  have hfind : (p :: ps).find? (·.value.isLost) = some p := List.find?_cons_of_pos h
  rw [outcome, hfind]

variable {p} in
/-- A value that is read leaves the outcome to the others. -/
theorem outcome_cons_of_not_isLost (h : p.value.isLost = false) :
    outcome (p :: ps) = outcome ps := by
  have hfind : (p :: ps).find? (·.value.isLost) = ps.find? (·.value.isLost) :=
    List.find?_cons_of_neg (Bool.eq_false_iff.mp h)
  rw [outcome, hfind, outcome]

end Returned

/-- Fields that are given back faithfully are scanned up to the first whose value is lost. -/
theorem scanFields_returned {row : FetchedRow} {ps : List Returned} {position : Nat}
    (faithful : ∀ p ∈ ps, p.IsFaithful) (values : row.values.drop position = ps.map (·.given))
    (columns : row.columns.drop position = ps.map (·.field.columnName)) :
    (Entry.scanFields (ps.map (·.field)) ⟨row, position⟩).outcome = Returned.outcome ps ∧
      (Returned.outcome ps = .ok () →
        (Entry.scanFields (ps.map (·.field)) ⟨row, position⟩).record = ps.map (·.filled)) := by
  -- the fields and the row are used up side by side
  induction ps generalizing position with
  | nil => exact ⟨rfl, fun _ => rfl⟩
  | cons p ps ih =>
    obtain ⟨⟨hstored, hread⟩, faithful⟩ := List.forall_mem_cons.mp faithful
    have hcolumn : row.columns[position]? = some p.field.columnName := by
      have hhead := congrArg (·[0]?) columns
      rwa [List.getElem?_drop, Nat.add_zero] at hhead
    have hcolumns : row.columns.drop (position + 1) = ps.map (·.field.columnName) := by
      rw [← List.tail_drop, columns]
      rfl
    obtain ⟨hnext, hvalues⟩ := Reader.next_of_drop p.field.type values
    obtain ⟨houtcome, hrecord⟩ := ih faithful hvalues hcolumns
    rw [FetchedRow.columnName, hcolumn, Option.getD_some, hread] at hnext
    rw [List.map_cons]
    cases hlost : p.value.isLost with
    | true =>
      rw [if_pos hlost] at hnext
      rw [Returned.outcome_cons_of_isLost ps hlost, scanFields_cons_of_error hstored hnext]
      exact ⟨rfl, fun h => by cases h⟩
    | false =>
      rw [if_neg (Bool.eq_false_iff.mp hlost)] at hnext
      rw [Returned.outcome_cons_of_not_isLost ps hlost, scanFields_cons_of_ok hstored hnext]
      exact ⟨houtcome, fun h => congrArg (p.filled :: ·) (hrecord h)⟩

end RecordSql
