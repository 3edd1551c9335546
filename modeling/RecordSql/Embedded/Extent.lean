import RecordSql.Embedded.Command

/-!
# The extent of statements

A statement may be too large for a database.  There is a limit on the columns of a table and of a result,
on the values that the markers of a statement take, and on how deep the operators of an expression stand
within one another: a condition of many parts is deep, since each part is joined to all those in front of
it.
-/

namespace RecordSql.Embedded

/-- The greatest number of columns of a table, and of a result. -/
def maxColumns : Nat := 2000

/-- The greatest number of values that the markers of a statement take. -/
def maxMarkers : Nat := 32766

/-- The greatest height of an expression. -/
def maxHeight : Nat := 1000

/-- The height of an expression: one for what stands by itself, and for an operator one more than that
of its higher operand. -/
def Expr.height {ν : Type} : Expr ν → Nat
  | literal _ | marker _ | column _ => 1
  | not e | negate e => e.height + 1
  | binary _ a b => max a.height b.height + 1

/-- The expressions of a projection. -/
def Projection.exprs : Projection → List (Expr String)
  | items list => list.map (·.value)
  | all | count _ => []

/-- The expressions of a query. -/
def Query.exprs (q : Query) : List (Expr String) :=
  q.projection.exprs ++ q.condition.toList ++ q.order.map (·.value)

/-- The expressions for the rows of an insert. -/
def RowSource.exprs : RowSource → List (Expr String)
  | defaults => []
  | tuples rows => rows.flatten
  | query q => q.exprs

/-- The expressions of a command. -/
def Command.exprs : Command → List (Expr String)
  | insert i => i.source.exprs ++ i.returning.toList.flatMap (·.exprs)
  | update _ assigned condition => assigned.map (·.2) ++ condition.toList
  | delete _ condition => condition.toList
  | query q => q.exprs
  | recursion r => r.first :: (r.next.exprs ++ r.main.exprs)
  | createTable .. | dropTable .. | start | commit | rollback => []

/-- Checks that a command whose markers take `needed` values is not too large. -/
def Command.checkExtent (c : Command) (needed : Nat) : Except Issue Unit :=
  if maxMarkers < needed then .error .tooManyMarkers
  else if c.exprs.any fun e => maxHeight < e.height then .error .tooHigh
  else .ok ()

end RecordSql.Embedded
