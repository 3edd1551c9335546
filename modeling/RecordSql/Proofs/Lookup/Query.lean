import RecordSql.Embedded.Expression
import RecordSql.FetchedRow
import RecordSql.Statement

/-!
# A key lookup as a query

A key lookup is a query for the keys of the rows that satisfy some conditions, the greatest key first.
`keyQuery` reads it as such: the statement is the text of the query with the values of its markers
(`keyLookup_eq_text`), and a row satisfies the query exactly if it agrees with every column that the
lookup compares (`truth_keyQuery_iff`).

What a database does with single values is an `Engine`: how it binds them as parameters, what its
columns keep of a parameter, and when a cell equals one.  Truth is three-valued, as it is in a query:
a comparison may be unknown, and a row is found only if the condition is true.
-/

namespace RecordSql

/-! ### The query -/

/-- A condition on a column of a stored row. -/
inductive Condition where
  /-- The cell is null. -/
  | isNull (column : String)
  /-- The cell equals the value of the marker with the given number, counted from one. -/
  | equals (column : String) (marker : Nat)
deriving DecidableEq, Repr

/-- A query for the keys of the rows of a table that satisfy some conditions, the greatest key
first. -/
structure KeyQuery where
  table : String
  key : String
  conditions : List Condition
deriving DecidableEq, Repr

/-- The text of a condition. -/
def Condition.text (d : Dialect) : Condition → String
  | isNull column => column ++ " IS NULL"
  | equals column k => column ++ "=" ++ d.marker k

/-- The text of a query. -/
def KeyQuery.text (d : Dialect) (q : KeyQuery) : String :=
  "SELECT " ++ q.key ++ " FROM " ++ q.table
    ++ (if q.conditions.isEmpty then ""
      else " WHERE " ++ " AND ".intercalate (q.conditions.map (·.text d)))
    ++ " ORDER BY " ++ q.key ++ " DESC"

/-- A condition for each column, the first marker being the `k`-th. -/
def agreement : Nat → List Column → List Condition
  | _, [] => []
  | k, c :: cs =>
    if c.value.isNull then .isNull c.name :: agreement k cs
    else .equals c.name k :: agreement (k + 1) cs

/-- The query for the rows that agree with what a lookup compares. -/
def keyQuery (table : String) (row : List Column) (key : Column) : KeyQuery :=
  ⟨table, key.name, agreement 1 (Shape.filters row)⟩

/-- The conditions of a lookup are the texts of the agreement with its columns. -/
theorem conditions_eq_map_text (d : Dialect) (k : Nat) (cols : List Column) :
    Shape.conditions d k cols = (agreement k cols).map (·.text d) := by
  induction cols generalizing k with
  | nil => rfl
  | cons c cols ih =>
    rw [Shape.conditions, agreement]
    cases c.value.isNull with
    | true => rw [if_pos rfl, if_pos rfl, List.map_cons, ih, Condition.text]
    | false =>
      rw [if_neg Bool.false_ne_true, if_neg Bool.false_ne_true, List.map_cons, ih, Condition.text]

/-- A lookup has a condition for each column that it compares. -/
theorem length_agreement (k : Nat) (cols : List Column) :
    (agreement k cols).length = cols.length := by
  induction cols generalizing k with
  | nil => rfl
  | cons c cols ih =>
    rw [agreement]
    cases c.value.isNull with
    | true => exact congrArg (· + 1) (ih k)
    | false => exact congrArg (· + 1) (ih (k + 1))

theorem isEmpty_agreement (k : Nat) (cols : List Column) :
    (agreement k cols).isEmpty = cols.isEmpty := by
  rw [Bool.eq_iff_iff, List.isEmpty_iff_length_eq_zero, List.isEmpty_iff_length_eq_zero,
    length_agreement]

/-- A key lookup is the text of its query, with the values that are not null for the markers. -/
theorem keyLookup_eq_text (d : Dialect) (table : String) (row : List Column) (key : Column) :
    Statement.keyLookup d table row key =
      ⟨(keyQuery table row key).text d, ((Shape.filters row).map (·.value)).filter (!·.isNull)⟩ := by
  have hsql : (Shape.lookupOf table row key).sql d = (keyQuery table row key).text d := by
    show "SELECT " ++ key.name ++ " FROM " ++ table
      ++ (if (Shape.filters row).isEmpty then ""
        else " WHERE " ++ " AND ".intercalate (Shape.conditions d 1 (Shape.filters row)))
      ++ " ORDER BY " ++ key.name ++ " DESC" = _
    rw [conditions_eq_map_text, KeyQuery.text, keyQuery, isEmpty_agreement]
  rw [Statement.keyLookup, Shape.statement, hsql]
  rfl

/-! ### What a database makes of it -/

/-- How a database treats single values. -/
structure Engine (κ : Type) where
  /-- The parameter that a value is bound as, if it is accepted. -/
  bind : Value → Option κ
  /-- The cell that the column with the given name keeps of a parameter. -/
  keep : String → κ → κ
  /-- Whether a cell is null. -/
  isNull : κ → Bool
  /-- Whether a cell equals a parameter. -/
  equal : κ → κ → Option Bool

/-- A stored row: its key, and the cells of its columns. -/
structure StoredRow (κ : Type) where
  key : Value
  cells : String → κ

variable {κ : Type}

/-- Whether a condition is true of a row. -/
def Condition.truth (e : Engine κ) (params : List κ) (s : StoredRow κ) : Condition → Option Bool
  | isNull column => some (e.isNull (s.cells column))
  | equals column k => (params[k - 1]?).bind (e.equal (s.cells column))

/-- Whether all conditions of a query are true of a row. -/
def KeyQuery.truth (e : Engine κ) (params : List κ) (s : StoredRow κ) (q : KeyQuery) : Option Bool :=
  (q.conditions.map (·.truth e params s)).foldr Embedded.bothTrue (some true)

/-- `found` answers a query on `rows`: these are the rows for which its conditions are true, and keys that
are integers descend. -/
structure KeyQuery.IsAnswer (e : Engine κ) (params : List κ) (rows : List (StoredRow κ))
    (q : KeyQuery) (found : List (StoredRow κ)) : Prop where
  perm : found.Perm (rows.filter fun s => q.truth e params s == some true)
  descending : found.Pairwise fun s t =>
    ∀ m n, s.key.integer? = some m → t.key.integer? = some n → n ≤ m

/-- The rows that a query for keys brings back. -/
def KeyQuery.fetched (q : KeyQuery) (found : List (StoredRow κ)) : List FetchedRow :=
  found.map fun s => ⟨[q.key], [s.key]⟩

/-- A conjunction of three-valued truths is true exactly if each of them is. -/
theorem foldr_bothTrue_eq_true_iff (truths : List (Option Bool)) :
    truths.foldr Embedded.bothTrue (some true) = some true ↔ ∀ t ∈ truths, t = some true := by
  induction truths with
  | nil => simp
  | cons t truths ih =>
    rw [List.foldr_cons, List.forall_mem_cons, ← ih]
    rcases t with _ | _ | _ <;>
      rcases truths.foldr Embedded.bothTrue (some true) with _ | _ | _ <;>
      simp [Embedded.bothTrue]

/-! ### What a lookup compares -/

theorem Value.isNull_iff {v : Value} : v.isNull = true ↔ v = .null := by
  cases v <;> simp [Value.isNull]

/-- Whether a value is a double that is no number. -/
def Value.isNaN : Value → Bool
  | .float x => x.isNaN
  | _ => false

/-- What is not a number is not null, though it is stored as null. -/
theorem Value.isNull_eq_false_of_isNaN {v : Value} (h : v.isNaN = true) : v.isNull = false := by
  cases v with
  | null => cases h
  | _ => rfl

theorem mem_written_of_mem_filters {row : List Column} {c : Column}
    (h : c ∈ Shape.filters row) : c ∈ Shape.written row := by
  rw [Shape.filters, List.mem_filter] at h
  rw [Shape.written, List.mem_filter]
  simp only [Bool.and_eq_true] at h
  exact ⟨h.1, h.2.1.2⟩

namespace Engine

variable (e : Engine κ)

/-- Whether a stored row agrees with a column: its cell is null as the value is, or else equals it. -/
def agrees (s : StoredRow κ) (c : Column) : Option Bool :=
  if c.value.isNull then some (e.isNull (s.cells c.name))
  else (e.bind c.value).bind (e.equal (s.cells c.name))

/-- The parameters of columns, of which nulls take none. -/
def params? (cols : List Column) : Option (List κ) :=
  ((cols.map (·.value)).filter (!·.isNull)).mapM e.bind

/-- A null has no parameter. -/
theorem params?_cons_of_isNull {c : Column} (h : c.value.isNull = true) (cols : List Column) :
    e.params? (c :: cols) = e.params? cols := by
  rw [params?, List.map_cons, List.filter_cons_of_neg (by rw [h]; decide), params?]

/-- Every other value has one. -/
theorem params?_cons_of_not_isNull {c : Column} (h : c.value.isNull = false) (cols : List Column) :
    e.params? (c :: cols) = (e.bind c.value).bind fun p => (e.params? cols).map (p :: ·) := by
  rw [params?, List.map_cons, List.filter_cons_of_pos (by rw [h]; rfl), List.mapM_cons, params?]
  cases e.bind c.value with
  | none => rfl
  | some p => cases List.mapM e.bind ((cols.map (·.value)).filter (!·.isNull)) <;> rfl

/-- The conditions on columns are true where the columns agree: every marker has its parameter. -/
theorem map_truth_agreement {s : StoredRow κ} {cols : List Column} {params : List κ}
    (h : e.params? cols = some params) (used : List κ) :
    (agreement (used.length + 1) cols).map (·.truth e (used ++ params) s) =
      cols.map (e.agrees s) := by
  induction cols generalizing params used with
  | nil => rfl
  | cons c cols ih =>
    rw [agreement, List.map_cons, agrees]
    -- a null takes no parameter, so the place of the next one stays
    cases hnull : c.value.isNull with
    | true =>
      rw [e.params?_cons_of_isNull hnull] at h
      rw [if_pos rfl, if_pos rfl, List.map_cons, ih h used, Condition.truth]
    | false =>
      rw [e.params?_cons_of_not_isNull hnull] at h
      obtain ⟨p, hp, hrest⟩ := Option.bind_eq_some_iff.mp h
      obtain ⟨rest, hparams, rfl⟩ := Option.map_eq_some_iff.mp hrest
      have hused := ih hparams (used ++ [p])
      rw [List.length_append, List.length_singleton, List.append_assoc, List.singleton_append]
        at hused
      rw [if_neg Bool.false_ne_true, if_neg Bool.false_ne_true, List.map_cons, hused,
        Condition.truth, hp, Nat.add_sub_cancel, List.getElem?_append_right (Nat.le_refl _),
        Nat.sub_self]
      rfl

/-- The conditions of a lookup are true of a row exactly if it agrees with every column that is
compared. -/
theorem truth_keyQuery_iff {s : StoredRow κ} {table : String} {row : List Column} {key : Column}
    {params : List κ} (h : e.params? (Shape.filters row) = some params) :
    (keyQuery table row key).truth e params s = some true ↔
      ∀ c ∈ Shape.filters row, e.agrees s c = some true := by
  have hmap : (agreement 1 (Shape.filters row)).map (·.truth e params s) =
      (Shape.filters row).map (e.agrees s) := e.map_truth_agreement h []
  rw [KeyQuery.truth, foldr_bothTrue_eq_true_iff, keyQuery, hmap, List.forall_mem_map]

/-! ### The row that an insert stores -/

/-- Whether a stored row keeps the values of columns: each has been bound, and its column has kept the
parameter. -/
def Keeps (cols : List Column) (s : StoredRow κ) : Prop :=
  ∀ c ∈ cols, ∃ p, e.bind c.value = some p ∧ s.cells c.name = e.keep c.name p

/-- Values that can be bound are bound. -/
theorem exists_params?_eq_some {cols : List Column}
    (h : ∀ c ∈ cols, ∃ p, e.bind c.value = some p) : ∃ params, e.params? cols = some params := by
  induction cols with
  | nil => exact ⟨[], rfl⟩
  | cons c cols ih =>
    obtain ⟨⟨p, hp⟩, hcols⟩ := List.forall_mem_cons.mp h
    obtain ⟨params, hparams⟩ := ih hcols
    cases hnull : c.value.isNull with
    | true => exact ⟨params, by rw [e.params?_cons_of_isNull hnull, hparams]⟩
    | false => exact ⟨p :: params, by rw [e.params?_cons_of_not_isNull hnull, hp, hparams]; rfl⟩

/-- The parameters of a lookup are bound if those of its insert were. -/
theorem Keeps.exists_params?_eq_some {row : List Column} {s : StoredRow κ}
    (h : e.Keeps (Shape.written row) s) :
    ∃ params, e.params? (Shape.filters row) = some params := by
  refine e.exists_params?_eq_some fun c hc => ?_
  obtain ⟨p, hp, -⟩ := h c (mem_written_of_mem_filters hc)
  exact ⟨p, hp⟩

/-- Whether a cell equals the parameter that its column was given, if the parameter is that of `c`. -/
def Recognizes (c : Column) : Prop :=
  ∀ p, e.bind c.value = some p → e.equal (e.keep c.name p) p = some true

/-- Whether a column keeps null as null. -/
def KeepsNull (name : String) : Prop :=
  ∀ p, e.bind .null = some p → e.isNull (e.keep name p) = true

/-- Whether a value that is not a number is bound as null. -/
def BindsNaNAsNull : Prop :=
  ∀ v p, v.isNaN = true → e.bind v = some p → e.isNull p = true

/-- Whether no comparison with null is true. -/
def NullEqualsNothing : Prop :=
  ∀ x p, e.isNull p = true → e.equal x p ≠ some true

/-- A row agrees with the columns it keeps, if its comparisons recognize what they keep. -/
theorem agrees_of_keeps {s : StoredRow κ} {cols : List Column} {c : Column}
    (kept : e.Keeps cols s) (hc : c ∈ cols) (null : e.KeepsNull c.name)
    (recognized : c.value.isNull = false → e.Recognizes c) : e.agrees s c = some true := by
  obtain ⟨p, hp, hcell⟩ := kept c hc
  rw [agrees, hcell]
  cases hnull : c.value.isNull with
  | true =>
    rw [Value.isNull_iff.mp hnull] at hp
    rw [if_pos rfl, null p hp]
  | false => rw [if_neg Bool.false_ne_true, hp, Option.bind_some, recognized hnull p hp]

end Engine

end RecordSql
