import RecordSql.Embedded.Command

/-!
# Expressions

An expression is resolved against the columns of its table and then evaluated on rows.  Conditions have
three truth values: a comparison with null is unknown, and so is what depends on it.  A row is taken
only if its condition is true.

The sum and the difference of two integers are integers while they fit 64 bits; every other sum is null.
A sign in front of a number turns it to the other side of zero.
-/

namespace RecordSql.Embedded

/-- A column of a row: its place, and its affinity. -/
structure Place where
  index : Nat
  affinity : Affinity
deriving DecidableEq, Repr

namespace Expr

/-- The expression with its columns looked up by `find`. -/
def resolve {ν μ : Type} (find : ν → Except Issue μ) : Expr ν → Except Issue (Expr μ)
  | literal c => .ok (.literal c)
  | marker n => .ok (.marker n)
  | column ref => Expr.column <$> find ref
  | not e => Expr.not <$> e.resolve find
  | negate e => Expr.negate <$> e.resolve find
  | binary op a b => do
    let a ← a.resolve find
    let b ← b.resolve find
    return .binary op a b

end Expr

/-! ### Truth values -/

/-- Whether both are true. -/
def bothTrue : Option Bool → Option Bool → Option Bool
  | some false, _ | _, some false => some false
  | some true, some true => some true
  | _, _ => none

/-- Whether one of them is true. -/
def eitherTrue : Option Bool → Option Bool → Option Bool
  | some true, _ | _, some true => some true
  | some false, some false => some false
  | _, _ => none

/-- What a comparison says about operands in the given order. -/
def BinaryOp.accepts : BinaryOp → Ordering → Bool
  | equal, o | same, o => o == .eq
  | notEqual, o | notSame, o => o != .eq
  | less, o => o == .lt
  | lessOrEqual, o => o != .gt
  | greater, o => o == .gt
  | greaterOrEqual, o => o != .lt
  | _, _ => false

/-- Compares two operands: unknown if one of them is null. -/
def Operand.compare (op : BinaryOp) (x y : Operand) : Option Bool :=
  if x.cell.isNull || y.cell.isNull then none else some (op.accepts (x.order y))

/-- Compares two operands, with nulls equal to one another and to nothing else. -/
def Operand.compareNulls (op : BinaryOp) (x y : Operand) : Bool :=
  op.accepts (x.order y)

/-- Combines the integers of two cells. -/
def Cell.arithmetic (f : Int → Int → Int) : Cell → Cell → Cell
  | .integer m, .integer n => .ofInt (f m.val n.val)
  | _, _ => .null

/-- The result of an operator between two operands. -/
def BinaryOp.apply (op : BinaryOp) (x y : Operand) : Cell :=
  match op with
  | or => .ofTruth (eitherTrue x.cell.truth y.cell.truth)
  | and => .ofTruth (bothTrue x.cell.truth y.cell.truth)
  | plus => Cell.arithmetic (· + ·) x.cell y.cell
  | minus => Cell.arithmetic (· - ·) x.cell y.cell
  | same | notSame => .ofTruth (some (x.compareNulls op y))
  | _ => .ofTruth (x.compare op y)

/-! ### Evaluation -/

namespace Expr

/-- The affinity of an expression: columns have one. -/
def affinity? : Expr Place → Option Affinity
  | column p => some p.affinity
  | _ => none

/-- The cell of an expression on a row, for the given values of the markers. -/
def eval (values row : List Cell) : Expr Place → Cell
  | literal c => c
  | marker n => (values[n - 1]?).getD .null
  | column p => (row[p.index]?).getD .null
  | not e => .ofTruth ((e.eval values row).truth.map Bool.not)
  | negate e => (e.eval values row).negated
  | binary op a b => op.apply ⟨a.eval values row, a.affinity?⟩ ⟨b.eval values row, b.affinity?⟩

/-- Whether a row satisfies a condition. -/
def holds (values row : List Cell) (condition : Expr Place) : Bool :=
  (condition.eval values row).truth == some true

end Expr

/-- Whether a row satisfies a condition, if there is one. -/
def satisfies (values row : List Cell) (condition : Option (Expr Place)) : Bool :=
  condition.all (·.holds values row)

end RecordSql.Embedded
