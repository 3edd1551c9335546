import RecordSql.Text.Alphanumeric
import RecordSql.Text.Case

/-!
# Snake case

A name is cut into words, and the words are written in lower case with underscores between them.
Everything that is neither letter nor number separates words and is dropped.  Within a run of letters
and numbers a word ends

* before an upper-case character, if the last cased character before it is lower-case;
* before an upper-case character that a lower-case one follows, if the last cased character of the word
  so far is upper-case, so that the last capital of an abbreviation starts the next word.

Characters without case belong to the word around them.  A capital sigma at the end of a word becomes
the final form of the letter.
-/

namespace RecordSql.Text

/-- The case of the last cased character of the word so far. -/
inductive WordCase where
  | uncased
  | lower
  | upper
deriving DecidableEq, Repr

/-- The case of a word after one more character. -/
def WordCase.after (w : WordCase) (c : Char) : WordCase :=
  if isLower c then .lower else if isUpper c then .upper else w

/-- Cuts a run of letters and numbers into words; `word` holds the word so far, in reverse. -/
def splitCase (w : WordCase) (word : List Char) : List Char → List (List Char)
  | [] => []
  | [c] => [(c :: word).reverse]
  | c :: d :: cs =>
    if w.after c = .lower && isUpper d then (c :: word).reverse :: splitCase .uncased [] (d :: cs)
    else if w = .upper && isUpper c && isLower d then
      word.reverse :: splitCase .uncased [c] (d :: cs)
    else splitCase (w.after c) (c :: word) (d :: cs)

/-- The runs of letters and numbers of a text; `run` holds the run so far, in reverse. -/
def alphanumericRuns (run : List Char) : List Char → List (List Char)
  | [] => [run.reverse]
  | c :: cs =>
    if isAlphanumeric c then alphanumericRuns (c :: run) cs
    else run.reverse :: alphanumericRuns [] cs

/-- A word in lower case. -/
def lowerWord : List Char → List Char
  | [] => []
  | ['Σ'] => ['ς']
  | c :: cs => toLower c ++ lowerWord cs

/-- The words of a name. -/
def words (name : List Char) : List (List Char) :=
  (alphanumericRuns [] name).flatMap (splitCase .uncased [])

/-- A name in snake case. -/
def snakeCase (name : String) : String :=
  String.ofList (['_'].intercalate ((words name.toList).map lowerWord))

end RecordSql.Text
