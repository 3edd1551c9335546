/-!
# Names

Tables, columns and words are told apart by their letters without regard to case, which only the letters
of ASCII have here.
-/

namespace RecordSql.Embedded

/-- The letters of a name without their case. -/
def folded (name : String) : List Char :=
  name.toList.map Char.toLower

/-- Whether two names are the same to the database. -/
def sameName (a b : String) : Bool :=
  folded a == folded b

end RecordSql.Embedded
