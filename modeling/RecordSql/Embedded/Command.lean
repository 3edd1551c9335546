import RecordSql.Embedded.Affinity
import RecordSql.Embedded.Name

/-!
# Commands

What the statements of the embedded database ask for.  An expression is over the columns of a row, which
it refers to by values of a type `ν`: names while it is only read, places in the row once the table is
known.
-/

namespace RecordSql.Embedded

/-- The operators between two expressions. -/
inductive BinaryOp where
  | or
  | and
  | equal
  | notEqual
  | same
  | notSame
  | less
  | lessOrEqual
  | greater
  | greaterOrEqual
  | plus
  | minus
deriving DecidableEq, Repr

/-- An expression over columns of type `ν`. -/
inductive Expr (ν : Type) where
  | literal (c : Cell)
  /-- The value of the marker with the given number, counted from one. -/
  | marker (number : Nat)
  | column (ref : ν)
  | not (e : Expr ν)
  | negate (e : Expr ν)
  | binary (op : BinaryOp) (a b : Expr ν)
deriving DecidableEq, Repr

/-- An item of a result with the name that is given to it, or else its text. -/
structure Item where
  value : Expr String
  label : Option String
  text : String
deriving DecidableEq, Repr

/-- What a query answers with. -/
inductive Projection where
  /-- All columns. -/
  | all
  | items (items : List Item)
  /-- The number of rows, under the given name. -/
  | count (name : String)
deriving DecidableEq, Repr

/-- An expression to order by. -/
structure OrderTerm where
  value : Expr String
  descending : Bool
deriving DecidableEq, Repr

/-- A query for rows of a table, or for one row without columns. -/
structure Query where
  projection : Projection
  source : Option String
  condition : Option (Expr String)
  order : List OrderTerm
deriving DecidableEq, Repr

/-- A query for the rows of a relation of one column that a first row starts and each row may continue
by one more. -/
structure Recursion where
  name : String
  column : String
  first : Expr String
  next : Query
  main : Query
deriving DecidableEq, Repr

/-- What an insert does with a row that breaks a rule of its table. -/
inductive OnConflict where
  /-- Gives the statement up. -/
  | abort
  /-- Leaves the row out. -/
  | ignore
  /-- Removes the rows in its way. -/
  | replace
deriving DecidableEq, Repr

/-- Where the rows of an insert come from. -/
inductive RowSource where
  | defaults
  | tuples (rows : List (List (Expr String)))
  | query (q : Query)
deriving DecidableEq, Repr

/-- An insert: without a list of columns, the rows have a value for each column. -/
structure Insertion where
  table : String
  columns : Option (List String)
  source : RowSource
  onConflict : OnConflict
  returning : Option Projection
deriving DecidableEq, Repr

/-- A column as a table declares it. -/
structure ColumnRule where
  name : String
  affinity : Affinity
  /-- The column is the number of the row. -/
  rowNumber : Bool
  unique : Bool
  required : Bool
  initial : Cell
deriving DecidableEq, Repr

/-- A statement. -/
inductive Command where
  | createTable (name : String) (columns : List ColumnRule) (keys : Nat) (unlessExists : Bool)
  | dropTable (name : String) (ifExists : Bool)
  | insert (i : Insertion)
  | update (table : String) (assigned : List (String × Expr String))
      (condition : Option (Expr String))
  | delete (table : String) (condition : Option (Expr String))
  | query (q : Query)
  | recursion (r : Recursion)
  | start
  | commit
  | rollback
deriving DecidableEq, Repr

/-- Why a statement is refused. -/
inductive Issue where
  /-- It is no statement. -/
  | unreadable
  | noTable (name : String)
  | tableExists (name : String)
  | nameTaken (name : String)
  | noColumn (name : String)
  | columnRepeated (name : String)
  /-- A table has more columns than a table can have. -/
  | tooManyColumns (table : String)
  | keyRepeated (table : String)
  | width (values columns : Nat)
  | notUnique (table column : String)
  | required (table column : String)
  | notRowNumber
  | transactionOpen
  | noTransaction (verb : String)
  /-- There are more or fewer values than markers. -/
  | valueCount (given needed : Nat)
  /-- A value has no cell to hold it. -/
  | valueTooLarge
  /-- A result has more columns than a result can have. -/
  | tooManyResults
  /-- The markers take more values than a statement can take. -/
  | tooManyMarkers
  /-- An expression is higher than an expression can be. -/
  | tooHigh
deriving DecidableEq, Repr

/-- The text of an issue. -/
def Issue.message : Issue → String
  | unreadable => "syntax error"
  | noTable name => "no such table: " ++ name
  | tableExists name => "table " ++ name ++ " already exists"
  | nameTaken name => "object name reserved for internal use: " ++ name
  | noColumn name => "no such column: " ++ name
  | columnRepeated name => "duplicate column name: " ++ name
  | tooManyColumns table => "too many columns on " ++ table
  | keyRepeated table => "table \"" ++ table ++ "\" has more than one primary key"
  | width values columns =>
    Text.showNat values ++ " values for " ++ Text.showNat columns ++ " columns"
  | notUnique table column => "UNIQUE constraint failed: " ++ table ++ "." ++ column
  | required table column => "NOT NULL constraint failed: " ++ table ++ "." ++ column
  | notRowNumber => "datatype mismatch"
  | transactionOpen => "cannot start a transaction within a transaction"
  | noTransaction verb => "cannot " ++ verb ++ " - no transaction is active"
  | valueCount given needed =>
    "Wrong number of parameters passed to query. Got " ++ Text.showNat given ++ ", needed "
      ++ Text.showNat needed
  | valueTooLarge => "number too large to fit in target type"
  | tooManyResults => "too many columns in result set"
  | tooManyMarkers => "too many SQL variables"
  | tooHigh => "Expression tree is too large (maximum depth 1000)"

end RecordSql.Embedded
