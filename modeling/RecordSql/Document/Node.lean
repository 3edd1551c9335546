/-!
# Configuration documents

A document is a tree of tables.  A table comes about in one of four ways: under a header of its own, on
the way to another header, on the way of a key with dots, or between braces.  The way decides what may
be added to it later:

* a table between braces is complete;
* a table under a header takes the pairs below the header, and nothing from keys with dots elsewhere;
* a table on the way to a header may get one header of its own;
* a table on the way of a key with dots takes more pairs from such keys only.

No key is given twice.
-/

namespace RecordSql.Document

/-- How a table has come about. -/
inductive Origin where
  | header
  | onTheWay
  | dotted
  | braces
deriving DecidableEq, Repr

/-- The kinds of scalars that are no texts. -/
inductive ScalarKind where
  | truth
  | integer
  | float
  | moment
deriving DecidableEq, Repr

/-- A value in a document.  Scalars other than texts are kept as they are written. -/
inductive Node where
  | text (s : String)
  | scalar (kind : ScalarKind) (written : String)
  | array (items : List Node)
  | table (origin : Origin) (entries : List (String × Node))
  /-- The tables under headers in double brackets. -/
  | tables (elements : List (List (String × Node)))

/-- The entries of a table. -/
abbrev Entries := List (String × Node)

namespace Entries

/-- Puts a value under a key, in the place of the one that it has. -/
def put (key : String) (n : Node) : Entries → Entries
  | [] => [(key, n)]
  | (k, m) :: rest => if k = key then (k, n) :: rest else (k, m) :: put key n rest

/-- Changes the entries at the end of a path by `f`, which is also told how their table has come
about.  Tables that are missing on the way come about as `fresh`. -/
def within (fresh : Origin) (f : Origin → Entries → Option Entries) (origin : Origin)
    (path : List String) (es : Entries) : Option Entries :=
  match path with
  | [] => f origin es
  | key :: path =>
    match es.lookup key with
    | none => do
      let inner ← within fresh f fresh path []
      return es.put key (.table fresh inner)
    | some (.table o inner) =>
      if o = .braces ∨ (fresh = .dotted ∧ o = .header) then none
      else do
        let inner ← within fresh f o path inner
        return es.put key (.table o inner)
    | some (.tables elements) => do
      let inner ← within fresh f .header path (← elements.getLast?)
      return es.put key (.tables (elements.dropLast ++ [inner]))
    | some _ => none

/-- A key with dots: the keys on the way, and the last one. -/
structure Key where
  path : List String
  last : String
deriving DecidableEq, Repr

/-- Adds a pair to the entries of a table that has come about as `origin`. -/
def add (origin : Origin) (key : Key) (n : Node) (es : Entries) : Option Entries :=
  within .dotted (fun o inner =>
    if (o == .dotted) == key.path.isEmpty || (inner.lookup key.last).isSome then none
    else some (inner.put key.last n)) origin key.path es

/-- Adds pairs one after the other. -/
def addAll (origin : Origin) (pairs : List (Key × Node)) (es : Entries) : Option Entries :=
  pairs.foldlM (fun es (key, n) => es.add origin key n) es

end Entries

/-- What stands over pairs. -/
inductive Header where
  /-- Nothing: the pairs belong to the document itself. -/
  | none
  | table (key : Entries.Key)
  | element (key : Entries.Key)
deriving DecidableEq, Repr

/-- A header and the pairs below it. -/
structure Section where
  header : Header
  pairs : List (Entries.Key × Node)

/-- Adds a section to a document. -/
def Entries.addSection (es : Entries) (s : Section) : Option Entries :=
  match s.header with
  | .none => es.addAll .header s.pairs
  | .table key =>
    Entries.within .onTheWay (fun _ inner => do
      let before ← match inner.lookup key.last with
        | .none => some []
        | some (.table .onTheWay entries) => some entries
        | some _ => .none
      return inner.put key.last (.table .header (← Entries.addAll .header s.pairs before)))
      .header key.path es
  | .element key =>
    Entries.within .onTheWay (fun _ inner => do
      let before ← match inner.lookup key.last with
        | .none => some []
        | some (.tables elements) => some elements
        | some _ => .none
      return inner.put key.last (.tables (before ++ [← Entries.addAll .header s.pairs []])))
      .header key.path es

end RecordSql.Document
