import RecordSql.Proofs.Embedded.Condition
import RecordSql.Proofs.Embedded.Sheet

/-!
# Columns as the embedded database declares them

Each of the three declared types is read as the rule of a column (`reads_columnRule`): the number of the
row, a column that prefers integers, and one that prefers texts.
-/

namespace RecordSql

open Embedded Embedded.Phrase

namespace DeclaredType

/-- The affinity of the declared type. -/
def affinity : DeclaredType → Affinity
  | key | integers => .integer
  | texts => .text

/-- The rule of a column with the given name. -/
def rule (d : DeclaredType) (name : String) : ColumnRule :=
  ⟨name, d.affinity, d = key, d = key, false, .null⟩

/-- The number of keys that the column counts for. -/
def keys : DeclaredType → Nat
  | key => 1
  | _ => 0

/-- The tokens of the declared type. -/
def tokens : DeclaredType → List Embedded.Token
  | key => [.word "INTEGER", .word "PRIMARY", .word "KEY"]
  | integers => [.word "int"]
  | texts => [.word "varchar", .sign "(", .literal (.integer ⟨255, by decide⟩), .sign ")"]

/-- The text of a declared type is cut into its tokens. -/
theorem spells (d : DeclaredType) : Spells EndsWord d.sqlType.toList d.tokens := by
  cases d with
  | key =>
    have hfront : Spells Anything "INTEGER PRIMARY ".toList [.word "INTEGER", .word "PRIMARY"] :=
      Spells.words ["INTEGER", "PRIMARY"] (by decide)
    have hback : Spells EndsWord "KEY".toList [.word "KEY"] := Spells.word (by decide)
    exact hfront.append_anything hback
  | integers => exact Spells.word (w := "int") (by decide)
  | texts =>
    have hfront : Spells EndsWord "varchar".toList [.word "varchar"] := Spells.word (by decide)
    have hback : Spells EndsWord "(255)".toList _ := fun rest more _ => Spells.length255 rest more trivial
    exact hfront.append_of_head hback rfl (by decide)

end DeclaredType

namespace Embedded.Phrase

/-- Whether the next token ends the declaration of a column. -/
def EndsColumn (t : Option Token) : Prop :=
  t = some (.sign ",") ∨ t = some (.sign ")")

/-- No word of an option follows a column, since a comma or a bracket ends it. -/
theorem EndsColumn.any_isWord {t : Option Token} (h : EndsColumn t) (word : String) :
    t.any (isWord word) = false := by
  rcases h with rfl | rfl <;> rfl

/-- No further word of the type follows a column, for the same reason. -/
theorem EndsColumn.nameOf? {t : Option Token} (h : EndsColumn t) (words : List String) :
    t.bind (nameOf? words) = none := by
  rcases h with rfl | rfl <;> rfl

/-- Nothing more is said of a column. -/
theorem reads_columnMarks_nil (fuel : Nat) (m : ColumnMarks) :
    Reads (columnMarks fuel m) [] EndsColumn (· = m) := by
  cases fuel with
  | zero => exact reads_pure m
  | succ fuel =>
    have absent (word : String) (t : Option Token) (ht : EndsColumn t) :
        (([] : List Token).head?.or t).any (isWord word) = false := ht.any_isWord word
    rw [columnMarks]
    exact .orElseWord (.orElseWord (.orElseWord (.orElseWord (.orElseWord (.orElseWord
      (.orElseWord (reads_pure m) (absent _)) (absent _)) (absent _)) (absent _)) (absent _))
      (absent _)) (absent _)

/-- A column is said to be the key. -/
theorem reads_columnMarks_primaryKey (fuel : Nat) (m : ColumnMarks) :
    Reads (columnMarks (fuel + 1) m) [.word "PRIMARY", .word "KEY"] EndsColumn
      (· = { m with keys := m.keys + 1, descending := false, counting := false }) := by
  -- none of the words that may go on with `PRIMARY KEY` is there
  have absent (word : String) : Reads (takeWord? word) [] EndsColumn (· = false) :=
    reads_takeWord?_false.mono (fun _ ht => ht.any_isWord word) fun _ h => h
  rw [columnMarks]
  refine Reads.bind_cons (reads_takeWord? (by decide)) ?_ fun _ _ => trivial
  rintro _ rfl
  refine Reads.bind_cons (reads_takeWords (.cons (by decide) .nil)) (fun _ _ => ?_)
    fun _ _ => trivial
  refine Reads.bind_nil (absent _) ?_ fun _ h => h
  rintro _ rfl
  refine Reads.bind_nil (absent _) (fun _ _ => ?_) fun _ h => h
  refine Reads.bind_nil (absent _) ?_ fun _ h => h
  rintro _ rfl
  exact reads_columnMarks_nil fuel _

/-- The words of a type end where no name follows. -/
theorem reads_typeWords_one {s : String} (h : isAmong (reserved ++ joining) s = false)
    {fuel : Nat} (hfuel : 0 < fuel) :
    Reads (typeWords fuel) [.word s] (fun t => t.bind (nameOf? (reserved ++ joining)) = none)
      (· = [s]) := by
  obtain ⟨fuel, rfl⟩ := Nat.exists_eq_add_one.mpr hfuel
  have hnil : Reads (typeWords fuel) []
      (fun t => t.bind (nameOf? (reserved ++ joining)) = none) (· = []) := by
    cases fuel with
    | zero => exact reads_pure []
    | succ fuel =>
      refine Reads.bind_nil reads_plainName?_none ?_ fun _ h => h
      rintro _ rfl
      exact reads_pure []
  rw [typeWords]
  refine Reads.bind_cons (reads_plainName? h) ?_ fun _ _ => trivial
  rintro _ rfl
  exact Reads.bind_pure hnil fun _ h => congrArg (s :: ·) h

theorem reads_typeNumbers?_none :
    Reads typeNumbers? [] (· ≠ some (.sign "(")) (· = false) := by
  refine Reads.bind_nil (reads_peek (· ≠ some (.sign "("))) (fun t ht => ?_) fun _ h => h
  rw [beq_false_of_ne ht]
  exact reads_pure false

/-- The number in the brackets of a type is read without a sign. -/
theorem reads_signedNumber (n : Ranged .i64) :
    Reads signedNumber [.literal (.integer n)] Any (· = ()) := by
  refine Reads.bind_nil reads_takeSign?_false ?_ fun _ _ => by simp
  rintro _ rfl
  refine Reads.bind_nil reads_takeSign?_false (fun _ _ => ?_) fun _ _ => by simp
  refine Reads.bind_last (reads_take _) ?_ fun _ _ => trivial
  rintro _ rfl
  exact reads_pure ()

/-- The numbers of a type. -/
theorem reads_typeNumbers? (n : Ranged .i64) :
    Reads typeNumbers? [.sign "(", .literal (.integer n), .sign ")"] Any (· = true) := by
  have hitems := reads_items_one (reads_signedNumber n) trivial
  refine Reads.bind_nil (reads_peek (· = some (.sign "("))) ?_ fun _ _ => rfl
  rintro _ rfl
  rw [if_pos (beq_self_eq_true _)]
  refine Reads.bind_last (hitems.parens ⟨by simp, trivial⟩) ?_ fun _ _ => trivial
  rintro _ rfl
  exact reads_pure true

/-- A type of one word. -/
theorem reads_declaredType {s : String} (h : isAmong (reserved ++ joining) s = false)
    {ts : List Token} {before : Option Token → Prop} {numbered : Bool}
    (hnumbers : Reads typeNumbers? ts before (· = numbered))
    (follows : ∀ t, before t → (ts.head?.or t).bind (nameOf? (reserved ++ joining)) = none) :
    Reads declaredType (.word s :: ts) before (· = (s, numbered)) := by
  refine reads_get fun left hleft => ?_
  refine Reads.bind_cons (reads_typeWords_one h (Nat.lt_of_lt_of_le (Nat.succ_pos _) hleft)) ?_
    follows
  rintro _ rfl
  rw [List.isEmpty_cons, if_neg Bool.false_ne_true]
  refine Reads.bind_pure hnumbers ?_
  rintro _ rfl
  rw [String.intercalate_singleton]

/-- The declared type in front of the marks of a column, its numbers aside. -/
theorem reads_declaredType_word {s : String} (h : isAmong (reserved ++ joining) s = false)
    {before : Option Token → Prop} (notParen : ∀ t, before t → t ≠ some (.sign "("))
    (notName : ∀ t, before t → t.bind (nameOf? (reserved ++ joining)) = none) :
    Reads declaredType [.word s] before (· = (s, false)) :=
  reads_declaredType h (reads_typeNumbers?_none.mono notParen fun _ h => h) notName

/-- A column with its declared type. -/
theorem reads_columnRule {s : String} (h : IsPlainName s) (d : DeclaredType) :
    Reads columnRule (.word s :: d.tokens) EndsColumn (· = (d.rule s, d.keys)) := by
  refine Reads.bind_cons (reads_name h) ?_ fun _ _ => trivial
  rintro _ rfl
  cases d with
  -- `PRIMARY` would be a further word of the type, were it not barred as a name
  | key =>
    have htype : Reads declaredType [.word "INTEGER"] (· = some (.word "PRIMARY"))
        (· = ("INTEGER", false)) := by
      refine reads_declaredType_word (by decide) ?_ ?_
      · rintro _ rfl
        decide
      · rintro _ rfl
        decide
    refine Reads.bind_cons htype ?_ fun _ _ => rfl
    rintro _ rfl
    refine reads_get fun left hleft => ?_
    obtain ⟨fuel, hfuel⟩ := Nat.exists_eq_add_one.mpr (Nat.lt_of_lt_of_le (Nat.succ_pos _) hleft)
    rw [hfuel]
    refine Reads.bind_last (reads_columnMarks_primaryKey fuel _) ?_ fun _ ht => ht
    rintro _ rfl
    exact reads_pure _
  | integers =>
    have htype : Reads declaredType [.word "int"] EndsColumn (· = ("int", false)) := by
      refine reads_declaredType_word (by decide) ?_ fun _ ht => ht.nameOf? _
      rintro _ (rfl | rfl) <;> decide
    refine Reads.bind_last htype ?_ fun _ ht => ht
    rintro _ rfl
    refine reads_get fun left _ => ?_
    refine Reads.bind_last (reads_columnMarks_nil _ _) ?_ fun _ ht => ht
    rintro _ rfl
    exact reads_pure _
  -- the length belongs to the type, and ends it
  | texts =>
    have htype : Reads declaredType
        [.word "varchar", .sign "(", .literal (.integer ⟨255, by decide⟩), .sign ")"] Any
        (· = ("varchar", true)) :=
      reads_declaredType (by decide) (reads_typeNumbers? _) fun _ _ => rfl
    refine Reads.bind_last htype ?_ fun _ _ => trivial
    rintro _ rfl
    refine reads_get fun left _ => ?_
    refine Reads.bind_last (reads_columnMarks_nil _ _) ?_ fun _ ht => ht
    rintro _ rfl
    exact reads_pure _

end Embedded.Phrase

end RecordSql
