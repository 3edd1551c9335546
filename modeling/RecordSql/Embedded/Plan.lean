import RecordSql.Embedded.Extent
import RecordSql.Embedded.Table

/-!
# Plans of queries

A query is planned for the columns that it reads from: every column that it names is looked up before
the first row is read.  A plan takes the rows that satisfy its condition, puts them in order, and makes
a row of the answer of each, or counts them.

A recursion makes its rows one after the other, each from the one before it.  It is followed for a limited
number of rows, and is endless if there are more.
-/

namespace RecordSql.Embedded

/-- What a query answers with for each row. -/
inductive Output where
  | cells (items : List (Expr Place))
  /-- One row for all of them: their number. -/
  | count
deriving DecidableEq, Repr

/-- A query whose columns are known. -/
structure Plan where
  names : List String
  output : Output
  condition : Option (Expr Place)
  order : List (Expr Place × Bool)
deriving DecidableEq, Repr

/-- The expression with its columns looked up among those of a table. -/
def Table.resolve (t : Table) (e : Expr String) : Except Issue (Expr Place) :=
  e.resolve t.place

/-- The condition with its columns looked up among those of a table. -/
def Table.resolve? (t : Table) : Option (Expr String) → Except Issue (Option (Expr Place))
  | none => .ok none
  | some e => some <$> t.resolve e

/-- The name of an item: the one it is given, that of the column it is, or its text. -/
def Table.itemName (t : Table) (i : Item) : String :=
  match i.label, i.value with
  | some name, _ => name
  | none, .column name => ((t.columns.find? fun c => sameName c.name name).map (·.name)).getD name
  | none, _ => i.text

/-- The names and the output of a projection. -/
def Table.project (t : Table) : Projection → Except Issue (List String × Output)
  | .all =>
    .ok (t.columns.map (·.name),
      .cells (t.columns.zipIdx.map fun (c, index) => .column ⟨index, c.affinity⟩))
  | .items items =>
    if maxColumns < items.length then .error .tooManyResults
    else do
      let cells ← items.mapM fun i => t.resolve i.value
      return (items.map t.itemName, .cells cells)
  | .count name => .ok ([name], .count)

/-- The plan of a query for the columns of a table. -/
def Table.plan (t : Table) (q : Query) : Except Issue Plan := do
  let (names, output) ← t.project q.projection
  let condition ← t.resolve? q.condition
  let order ← q.order.mapM fun o => do return (← t.resolve o.value, o.descending)
  return ⟨names, output, condition, order⟩

/-- Whether the row `a` may stand in front of the row `b` by the given terms. -/
def inOrder (values : List Cell) (a b : List Cell) : List (Expr Place × Bool) → Bool
  | [] => true
  | (e, descending) :: rest =>
    let o := (e.eval values a).order (e.eval values b)
    match if descending then o.swap else o with
    | .lt => true
    | .gt => false
    | .eq => inOrder values a b rest

namespace Plan

/-- The answer for rows. -/
def run (p : Plan) (values : List Cell) (rows : List (List Cell)) : List (List Cell) :=
  let kept := rows.filter fun row => satisfies values row p.condition
  match p.output with
  | .count => [[.ofInt kept.length]]
  | .cells items =>
    (kept.mergeSort fun a b => inOrder values a b p.order).map fun row =>
      items.map (·.eval values row)

/-- The row of the answer for one row, if it is kept. -/
def single (p : Plan) (values row : List Cell) : Option (List Cell) :=
  if satisfies values row p.condition then
    match p.output with
    | .cells items => some (items.map (·.eval values row))
    | .count => none
  else none

end Plan

/-- Combines the rows of a chain, in which `next` makes each from the one before it: `none` if there are
more than `limit`. -/
def foldChain {β : Type} (next : List Cell → Option (List Cell)) (f : β → List Cell → β) :
    Nat → β → List Cell → Option β
  | 0, _, _ => none
  | limit + 1, b, row =>
    match next row with
    | none => some (f b row)
    | some following => foldChain next f limit (f b row) following

/-- The answer of a plan for the rows of a chain, and their number. -/
def Plan.runChain (p : Plan) (values : List Cell) (limit : Nat)
    (next : List Cell → Option (List Cell)) (first : List Cell) :
    Option (List (List Cell) × Nat) :=
  match p.output with
  | .count =>
    let add (sum : Nat × Nat) (row : List Cell) : Nat × Nat :=
      (if satisfies values row p.condition then sum.1 + 1 else sum.1, sum.2 + 1)
    (foldChain next add limit (0, 0) first).map fun sum => ([[.ofInt sum.1]], sum.2)
  | .cells _ =>
    (foldChain next (fun rows row => row :: rows) limit [] first).map fun rows =>
      (p.run values rows.reverse, rows.length)

end RecordSql.Embedded
