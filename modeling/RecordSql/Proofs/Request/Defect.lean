import RecordSql.Proofs.Binding
import RecordSql.Proofs.Result
import RecordSql.Proofs.Select

/-!
# Requests and their defects

A `Request` is one of the operations with what it is asked for.  What it sends first is its
`statement`. A request that cannot be sent has a defect, and `defect?` lists the defects that each
operation looks for, in the order in which it looks: the first one that applies is the fault with
which the statement is refused, and without a defect there is a statement (`fault?_statement`).
-/

namespace RecordSql

/-! ### Defects of a row -/

section Row

variable (table : String) (row : List Column)

/-- The table has no name. -/
def unnamedTable? : Option Fault :=
  if table = "" then some (.validation "record has an empty table name") else none

/-- The row has no columns. -/
def emptyRow? : Option Fault :=
  if row = [] then some (.emptyRow table) else none

/-- No column is marked as key. -/
def noKey? : Option Fault :=
  if ∀ c ∈ row, c.isPrimaryKey = false then some (.noPrimaryKey table) else none

/-- Every column is marked as key. -/
def onlyKeys? : Option Fault :=
  if ∀ c ∈ row, c.isPrimaryKey = true then
    some (.validation ("table '" ++ table ++ "' has no non-key columns to update"))
  else none

/-- There is no column to read into. -/
def noTarget? : Option Fault :=
  if row = [] then
    some (.noUnmarshalTarget
      ("records of table '" ++ table ++ "' expose no columns to scan into"))
  else none

theorem fault?_checkTable : fault? (checkTable table) = unnamedTable? table := by
  unfold checkTable unnamedTable?
  simp [fault?_ite, String.isEmpty_iff]

theorem fault?_checkRow :
    fault? (checkRow table row) = (unnamedTable? table <|> emptyRow? table row) := by
  have hrow : fault? (if row.isEmpty then .error (.emptyRow table) else .ok ()) =
      emptyRow? table row := by
    unfold emptyRow?
    simp [fault?_ite, List.isEmpty_iff]
  unfold checkRow
  rw [fault?_bind fun _ => hrow, fault?_checkTable]

/-- A missing key is reported last of the three. -/
theorem fault?_requireKey : fault? (requireKey table row) =
    (unnamedTable? table <|> emptyRow? table row <|> noKey? table row) := by
  unfold requireKey
  refine (fault?_bind (o := noKey? table row) fun _ => ?_).trans ?_
  · unfold noKey?
    -- the key is looked for only in a row that passes the other checks
    cases hfind : primaryKey? row with
    | some key =>
      have hmem : ¬ ∀ c ∈ row, c.isPrimaryKey = false := by
        intro hall
        have hmarked : key.isPrimaryKey = true := List.find?_some hfind
        rw [hall key (List.mem_of_find?_eq_some hfind)] at hmarked
        cases hmarked
      simp [hmem]
    | none =>
      have hall : ∀ c ∈ row, c.isPrimaryKey = false := by
        simpa [primaryKey?] using hfind
      rw [if_pos hall]
      rfl
  · rw [fault?_checkRow]
    cases unnamedTable? table <;> rfl

end Row

/-! ### Requests -/

/-- An operation and what it is asked for, by the type of its answer. -/
inductive Request (ρ : Type) : Type → Type where
  | createTable (r : ρ) : Request ρ Unit
  | dropTable (r : ρ) : Request ρ Unit
  | insert (r : ρ) : Request ρ (Option Column)
  | get (r : ρ) : Request ρ (ρ × Except Fault Unit)
  | update (r : ρ) : Request ρ Unit
  | delete (r : ρ) : Request ρ Nat
  | select (r : ρ) (clause : String) (args : List Argument) : Request ρ (List ρ)
  | executeNamed (sql : String) (args : List Argument) : Request ρ Nat
  | queryNamed (sql : String) (args : List Argument) : Request ρ (List FetchedRow)

/-- A parameter of a text has no argument; the first one in the text counts. -/
def missingArgument? (c : Config) (text : String) (args : List Argument) : Option Fault :=
  (unbound? (Template.ofText c.sigil text).names args).map .unknownParameter

/-- A text is refused for its first parameter without an argument, and for nothing else. -/
theorem fault?_named (c : Config) (text : String) (args : List Argument) :
    fault? (Statement.named c.dialect c.sigil text args) = missingArgument? c text args := by
  have hbind : fault? (bindArguments (Template.ofText c.sigil text).names args) =
      missingArgument? c text args := by
    ext e
    rw [fault?_eq_some_iff, bindArguments_eq_error_iff]
    rfl
  rw [← hbind, Statement.named_eq, fault?_map]
  rfl

namespace Request

variable {ρ : Type} [Record ρ]

section Statement

variable (c : Config)

/-- What a request sends first. -/
def statement {α : Type} : Request ρ α → Except Fault Statement
  | createTable r =>
    (Statement.createTable (Record.table r) (Record.row r c.dialect)).map fun sql => ⟨sql, []⟩
  | dropTable r => (Statement.dropTable (Record.table r)).map fun sql => ⟨sql, []⟩
  | insert r => Statement.insert c.dialect (Record.table r) (Record.row r c.dialect)
  | get r => Statement.get c.dialect (Record.table r) (Record.row r c.dialect)
  | update r => Statement.update c.dialect (Record.table r) (Record.row r c.dialect)
  | delete r => Statement.delete c.dialect (Record.table r) (Record.row r c.dialect)
  | select r clause args => Operation.selectStatement c r clause args
  | executeNamed sql args | queryNamed sql args =>
    Statement.named c.dialect c.sigil sql args

/-- The first defect of a request, in the order in which they are looked for. -/
def defect? {α : Type} : Request ρ α → Option Fault
  | dropTable r => unnamedTable? (Record.table r)
  | createTable r | insert r =>
    unnamedTable? (Record.table r) <|> emptyRow? (Record.table r) (Record.row r c.dialect)
  | get r | delete r =>
    unnamedTable? (Record.table r) <|> emptyRow? (Record.table r) (Record.row r c.dialect) <|>
      noKey? (Record.table r) (Record.row r c.dialect)
  | update r =>
    unnamedTable? (Record.table r) <|> emptyRow? (Record.table r) (Record.row r c.dialect) <|>
      noKey? (Record.table r) (Record.row r c.dialect) <|>
      onlyKeys? (Record.table r) (Record.row r c.dialect)
  | select r clause args =>
    noTarget? (Record.table r) (Record.row r c.dialect) <|> unnamedTable? (Record.table r) <|>
      missingArgument? c
        (selectHead (Record.table r) (Record.row r c.dialect) ++ clauseTail clause) args
  | executeNamed sql args | queryNamed sql args => missingArgument? c sql args

end Statement

variable (c : Config)

/-- **A request has a statement if and only if it has no defect**, and otherwise it is refused with
the first one. -/
theorem fault?_statement {α : Type} (q : Request ρ α) : fault? (q.statement c) = q.defect? c := by
  cases q with
  | createTable r =>
    simp [statement, defect?, Statement.createTable, fault?_checkRow]
  | dropTable r =>
    simp [statement, defect?, Statement.dropTable, fault?_checkTable]
  | insert r =>
    simp [statement, defect?, Statement.insert, Shape.insertOf, fault?_checkRow]
  | get r =>
    simp [statement, defect?, Statement.get, Shape.getOf, fault?_requireKey]
  | update r =>
    -- whether there is anything to write is asked last, behind the key
    have hlate (key : Column) : fault? (if (Shape.assigned (Record.row r c.dialect)).isEmpty then
          .error (.validation
            ("table '" ++ Record.table r ++ "' has no non-key columns to update"))
        else .ok (Shape.update (Record.table r) (Shape.assigned (Record.row r c.dialect)) key)) =
        onlyKeys? (Record.table r) (Record.row r c.dialect) := by
      unfold onlyKeys? Shape.assigned
      simp [fault?_ite]
    unfold statement Statement.update Shape.updateOf defect?
    rw [fault?_map]
    refine (fault?_bind hlate).trans ?_
    rw [fault?_requireKey]
    simp [Option.or_assoc]
  | delete r =>
    simp [statement, defect?, Statement.delete, Shape.deleteOf, fault?_requireKey]
  | select r clause args =>
    show fault? (Operation.selectStatement c r clause args) = _
    unfold defect?
    -- here the row is looked at before the table
    by_cases hrow : Record.row r c.dialect = []
    · simp [Operation.selectStatement, hrow, noTarget?]
    · by_cases htable : Record.table r = ""
      · have hselect : Statement.select "" (Record.row r c.dialect) clause =
            .error (.validation "record has an empty table name") := rfl
        simp [Operation.selectStatement, hrow, htable, hselect, noTarget?, unnamedTable?]
      · rw [Operation.selectStatement_eq c r clause args htable hrow, fault?_named]
        simp [hrow, htable, noTarget?, unnamedTable?]
  | executeNamed sql args => exact fault?_named c sql args
  | queryNamed sql args => exact fault?_named c sql args

end Request

end RecordSql
