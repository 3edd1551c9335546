import RecordSql.Proofs.Embedded.DeclaredType

/-!
# Statements as the embedded database reads them

The statements that the row of a record gives rise to are read as the commands they stand for, as long
as the names of the table and of its columns are plain.  A text is cut into tokens first (`Spells`), and
then a phrase reads the tokens (`Reads`); `readCommand_eq` puts the two together.
-/

namespace RecordSql

open Embedded Embedded.Phrase

/-! ### Whole statements -/

namespace Embedded

namespace Phrase

theorem next_eq_none_iff {rest : List Lexeme} : next rest = none ↔ rest = [] := by
  cases rest <;> simp [next]

/-- A statement with its first word. -/
theorem reads_command {source : List Char} {word : String} (first : String) {ts : List Token}
    {P : Command → Prop} (hfirst : String.ofList (folded word) = first)
    (h : Reads (commandOf source first) ts (· = none) P) :
    Reads (command source) (.word word :: ts) (· = none) P := by
  -- behind the command nothing follows, so there is no semicolon to take
  have hend (c : Command) (hc : P c) : Reads (do
      let _ ← takeSign? ";"
      if (← get).isEmpty then return c else failure) [] (· = none) P := by
    refine Reads.bind_nil reads_takeSign?_false (fun _ _ => ?_) ?_
    · intro ls rest hls hrest
      rw [List.map_eq_nil_iff] at hls
      rw [next_eq_none_iff] at hrest
      subst hls hrest
      exact ⟨c, hc, rfl⟩
    · rintro _ rfl
      simp
  refine Reads.bind_cons (reads_take _) ?_ fun _ _ => trivial
  rintro _ rfl
  simp only [hfirst]
  exact Reads.bind_last h hend fun _ ht => ht

end Phrase

/-- A text is read as what its tokens are read as, their markers being numbered. -/
theorem readCommand_eq {text : String} {ts : List Token} {P : Command → Prop}
    (hspells : Spells EndsWord text.toList ts) (hmarks : MarksNext ts)
    (hreads : Reads (command text.toList) (numbered 0 ts) (· = none) P) :
    ∃ c, P c ∧ readCommand text = .ok (c, ts.count (.marker .next)) := by
  have htokens := hspells.lexemes endsWord_nil
  obtain ⟨hnumbered, hcount⟩ := numberAll_eq (htokens ▸ hmarks) 0
  rw [htokens] at hnumbered hcount
  obtain ⟨c, hc, hrun⟩ := hreads _ [] hnumbered rfl
  rw [List.append_nil] at hrun
  refine ⟨c, hc, ?_⟩
  rw [readCommand]
  simp only [hrun, hcount, Nat.zero_add]

end Embedded

/-! ### Creating a table -/

namespace Heading

/-- The tokens of the declaration of a column. -/
def declaration (h : Heading) : List Embedded.Token :=
  .word h.name :: h.type.tokens

/-- The declaration of a column is its name and the words of its type. -/
theorem spells_declaration {h : Heading} (hname : IsPlainName h.name) :
    Spells EndsWord (h.name ++ " " ++ h.type.sqlType).toList h.declaration := by
  rw [String.toList_append, String.toList_append, List.append_assoc]
  have htype : Spells EndsWord (" ".toList ++ h.type.sqlType.toList) h.type.tokens :=
    Spells.space.append_anything h.type.spells
  exact (Spells.word hname.word).append_of_head htype rfl (by decide)

/-- The rule that the column is declared with. -/
def rule (h : Heading) : ColumnRule :=
  h.type.rule h.name

end Heading

/-- The rules of the columns of a table, and for how many keys each counts. -/
def rulesOf (headings : List Heading) : List (ColumnRule × Nat) :=
  headings.map fun h => (h.rule, h.type.keys)

/-- The tokens of the statement that creates a table. -/
def createTokens (table : String) (headings : List Heading) : List Embedded.Token :=
  .word "CREATE" :: .word "TABLE" :: .word table :: .sign "(" ::
    ([.sign ","].intercalate (headings.map Heading.declaration) ++ [.sign ")"])

theorem toList_commas (items : List String) :
    (commas items).toList = [','].intercalate (items.map String.toList) :=
  String.toList_intercalate

section Create

variable {table : String} {headings : List Heading}

/-- The text that creates a table is cut into the tokens of its declarations. -/
theorem spells_createText (htable : IsPlainName table) (hnames : ∀ h ∈ headings, IsPlainName h.name) :
    Spells EndsWord (createText table headings).toList (createTokens table headings) := by
  have hfront : Spells Anything "CREATE TABLE ".toList [.word "CREATE", .word "TABLE"] :=
    Spells.words ["CREATE", "TABLE"] (by decide)
  have hopen : Spells Anything " (".toList [.sign "("] :=
    Spells.space.append_anything Spells.leftParen
  have hcolumns := Spells.commas fun h hh => Heading.spells_declaration (hnames h hh)
  have hclose : Spells EndsWord ")".toList [.sign ")"] := fun rest more _ =>
    Spells.rightParen rest more trivial
  rw [createText]
  simp only [String.toList_append, toList_commas, List.map_map, List.append_assoc]
  exact hfront.append_anything ((Spells.word htable.word).append_of_head (hopen.append_anything
    (hcolumns.append_of_head hclose rfl (by decide))) rfl (by decide))

/-- The text that creates a table has no markers. -/
theorem unmarked_createTokens (table : String) (headings : List Heading) :
    Unmarked (createTokens table headings) := by
  have hcolumns : Unmarked ([.sign ","].intercalate (headings.map Heading.declaration)) := by
    refine Unmarked.intercalate fun ts hts m hm => ?_
    obtain ⟨h, -, rfl⟩ := List.mem_map.mp hts
    cases htype : h.type <;> simp [Heading.declaration, DeclaredType.tokens, htype] at hm
  intro m hm
  rcases List.mem_cons.mp hm with hm | hm
  · cases hm
  rcases List.mem_cons.mp hm with hm | hm
  · cases hm
  rcases List.mem_cons.mp hm with hm | hm
  · cases hm
  rcases List.mem_cons.mp hm with hm | hm
  · cases hm
  rcases List.mem_append.mp hm with hm | hm
  · exact hcolumns m hm
  · simp at hm

/-- The command that creates a table. -/
def createCommand (table : String) (headings : List Heading) : Command :=
  .createTable table ((rulesOf headings).map (·.1))
    ((rulesOf headings).foldl (fun count c => count + c.2) 0) false

/-- The tokens of the text that creates a table are read as the command. -/
theorem reads_createTable (source : List Char) (htable : IsPlainName table)
    (hnames : ∀ h ∈ headings, IsPlainName h.name) (hne : headings ≠ []) :
    Reads (command source) (createTokens table headings) (· = none)
      (· = createCommand table headings) := by
  have hcolumns : Reads (items columnRule) ([.sign ","].intercalate (headings.map Heading.declaration))
      (fun t => t ≠ some (.sign ",") ∧ EndsColumn t) (· = rulesOf headings) :=
    reads_items_eq_map (fun h hh => reads_columnRule (hnames h hh) h.type) (Or.inl rfl) hne
  -- the name of the table is no `IF`
  have hif : isWord "if" (.word table) = false := htable.sameName_eq_false (by decide)
  refine reads_command "create" (by decide) ?_
  refine Reads.bind_cons (reads_takeWords (.cons (by decide) .nil)) (fun _ _ => ?_)
    fun _ _ => trivial
  refine Reads.bind_nil reads_takeWord?_false ?_ fun _ _ => hif
  rintro _ rfl
  refine Reads.bind_cons (reads_name htable) ?_ fun _ _ => trivial
  rintro _ rfl
  refine Reads.bind_last (hcolumns.parens ⟨by simp, Or.inr rfl⟩) ?_ fun _ _ => trivial
  rintro _ rfl
  exact reads_pure _

/-- The text that creates a table is read as that. -/
theorem readCommand_createText (htable : IsPlainName table)
    (hnames : ∀ h ∈ headings, IsPlainName h.name) (hne : headings ≠ []) :
    readCommand (createText table headings) = .ok (createCommand table headings, 0) := by
  have hunmarked := unmarked_createTokens table headings
  have hspells := spells_createText htable hnames
  have hnumbered := numbered_of_unmarked hunmarked 0
  obtain ⟨c, rfl, hread⟩ := readCommand_eq hspells hunmarked.marksNext
    (hnumbered.symm ▸ reads_createTable _ htable hnames hne)
  rw [hread, hunmarked.count_eq_zero]

end Create

/-! ### Inserting a row -/

/-- The tokens of names with commas between them. -/
def nameTokens (names : List String) : List Embedded.Token :=
  [.sign ","].intercalate (names.map fun s => [.word s])

/-- A list of plain names is cut into the names and commas. -/
theorem spells_names {names : List String} (h : ∀ s ∈ names, IsPlainName s) :
    Spells EndsWord (commas names).toList (nameTokens names) := by
  rw [toList_commas]
  exact Spells.commas fun s hs => Spells.word (h s hs).word

theorem unmarked_nameTokens (names : List String) : Unmarked (nameTokens names) := by
  refine Unmarked.intercalate fun ts hts m hm => ?_
  obtain ⟨s, -, rfl⟩ := List.mem_map.mp hts
  simp at hm

/-- The names of a list are read in order. -/
theorem reads_names {names : List String} (h : ∀ s ∈ names, IsPlainName s) (hne : names ≠ []) :
    Reads (items name) (nameTokens names) (· ≠ some (.sign ",")) (· = names) := by
  have hitems : Reads (items name) (nameTokens names) _ (· = names.map id) :=
    reads_items_eq_map (fun s hs => reads_name (h s hs)) trivial hne
  rw [List.map_id] at hitems
  exact hitems.mono (fun _ ht => ⟨ht, trivial⟩) fun _ h => h

/-- A list of markers is cut into the markers and commas. -/
theorem spells_markers (n : Nat) :
    Spells EndsWord (commas (List.replicate n "?")).toList
      ([.sign ","].intercalate ((List.range n).map fun _ => [.marker .next])) := by
  have hmarkers : List.replicate n "?" = (List.range n).map fun _ => "?" := by
    rw [List.map_const', List.length_range]
  have hmark : "?".toList = ['?'] := rfl
  rw [hmarkers, toList_commas, List.map_map]
  refine Spells.commas fun _ _ => ?_
  rw [Function.comp, hmark]
  exact Spells.marker

/-- The expressions of the first `n` markers. -/
def markerExprs (n : Nat) : List (Expr String) :=
  (List.range' 1 n).map .marker

/-- The markers of a list are read as the parameters with their numbers. -/
theorem reads_markers {n : Nat} (hn : n ≠ 0) :
    Reads (items expr) (markerTokens (List.range' 1 n))
      (fun t => t ≠ some (.sign ",") ∧ Stops 0 t) (· = markerExprs n) := by
  have hmarker (k : Nat) : Reads expr [.marker (.numbered k)] (Stops 0) (· = .marker k) :=
    reads_get fun left _ => reads_exprIn_atom (isAtom_marker k) _ 0
  exact reads_items_eq_map (fun k _ => hmarker k) (by simp [Stops, nullTest?, operator?])
    (by simpa using hn)

/-- One row of markers is read behind `VALUES`. -/
theorem reads_tuples {n : Nat} (hn : n ≠ 0) (source : List Char) :
    Reads (rowSource source)
      (.word "VALUES" :: .sign "(" :: (markerTokens (List.range' 1 n) ++ [.sign ")"])) (· = none)
      (· = .tuples [markerExprs n]) := by
  have htuple : Reads tuple (.sign "(" :: (markerTokens (List.range' 1 n) ++ [.sign ")"])) Any
      (· = markerExprs n) := (reads_markers hn).parens (by simp [Stops, nullTest?, operator?])
  have hdefault : isWord "default" (.word "VALUES") = false := by decide
  refine .orElseWord ?_ fun _ _ => hdefault
  refine Reads.bind_cons (reads_takeWord? (by decide)) ?_ fun _ _ => trivial
  rintro _ rfl
  refine Reads.bind_last (reads_items_one htuple trivial) ?_ ?_
  · rintro _ rfl
    exact reads_pure _
  · rintro _ rfl
    exact ⟨by simp, trivial⟩

/-- An insert without columns is read with defaults only. -/
theorem reads_defaults (source : List Char) :
    Reads (rowSource source) [.word "DEFAULT", .word "VALUES"] (· = none) (· = .defaults) := by
  refine Reads.bind_cons (reads_takeWord? (by decide)) ?_ fun _ _ => trivial
  rintro _ rfl
  refine Reads.bind_last (reads_takeWords (.cons (by decide) .nil)) (fun _ _ => ?_)
    fun _ _ => trivial
  exact reads_pure _

/-- An insert whose list of columns, if there is one, is read in front of its rows. -/
theorem reads_insertion (source : List Char) {table : String} {columns : Option (List String)}
    {rows : RowSource} {ts us : List Embedded.Token} (htable : IsPlainName table)
    (hcolumns : (columns = none ∧ ts = [] ∧ us.head? ≠ some (.sign "(")) ∨
      ts.head? = some (.sign "(") ∧ Reads (some <$> parens (items name)) ts Any (· = columns))
    (hrows : Reads (rowSource source) us (· = none) (· = rows)) :
    Reads (command source) (.word "INSERT" :: .word "INTO" :: .word table :: (ts ++ us)) (· = none)
      (· = .insert ⟨table, columns, rows, .abort, none⟩) := by
  -- `INTO` follows at once, so no conflict clause is read
  have hconflict : Reads onConflict [] (· = some (.word "INTO")) (· = .abort) := by
    refine .orElseWord (reads_pure OnConflict.abort) ?_
    rintro _ rfl
    decide
  have hend : Reads (do
      let rows ← rowSource source
      let returning ← if ← takeWord? "returning" then some <$> projection source else pure none
      return (⟨table, columns, rows, .abort, returning⟩ : Insertion)) us (· = none)
      (· = ⟨table, columns, rows, .abort, none⟩) := by
    refine Reads.bind_last hrows ?_ fun _ h => h
    rintro _ rfl
    refine .orElseWord ?_ ?_
    · exact reads_pure _
    · rintro _ rfl
      rfl
  have hrest : Reads (insertRest source .abort) (.word "INTO" :: .word table :: (ts ++ us)) (· = none)
      (· = ⟨table, columns, rows, .abort, none⟩) := by
    refine Reads.bind_cons (reads_takeWords (.cons (by decide) .nil)) (fun _ _ => ?_)
      fun _ _ => trivial
    refine Reads.bind_cons (reads_name htable) ?_ fun _ _ => trivial
    rintro _ rfl
    -- a bracket behind the table opens the list of columns
    rcases hcolumns with ⟨rfl, rfl, hus⟩ | ⟨hts, hcolumns⟩
    · refine Reads.bind_nil (reads_peek (· ≠ some (.sign "("))) (fun t ht => ?_) ?_
      · rw [beq_false_of_ne ht]
        exact hend
      · rintro _ rfl
        rwa [Option.or_none]
    · refine Reads.bind_nil (reads_peek (· = some (.sign "("))) ?_ ?_
      · rintro _ rfl
        rw [beq_self_eq_true]
        refine Reads.bind hcolumns ?_ fun _ _ => trivial
        rintro _ rfl
        exact hend
      · intro t _
        rw [List.head?_append, hts]
        rfl
  refine reads_command "insert" (by decide) ?_
  refine Reads.bind_nil hconflict ?_ fun _ _ => rfl
  rintro _ rfl
  refine Reads.bind_last hrest ?_ fun _ h => h
  rintro _ rfl
  exact reads_pure _

/-- The command of an insert that writes the columns of the given names. -/
def insertCommand (table : String) (names : List String) : Command :=
  .insert <|
    if names.isEmpty then ⟨table, none, .defaults, .abort, none⟩
    else ⟨table, some names, .tuples [markerExprs names.length], .abort, none⟩

theorem spells_insertInto : Spells Anything "INSERT INTO ".toList [.word "INSERT", .word "INTO"] :=
  Spells.words ["INSERT", "INTO"] (by decide)

/-- An insert without columns. -/
theorem readCommand_insert_nil {table : String} (htable : IsPlainName table) :
    readCommand ("INSERT INTO " ++ table ++ " DEFAULT VALUES") = .ok (insertCommand table [], 0) := by
  have hdefault : Spells EndsWord "DEFAULT".toList [.word "DEFAULT"] := Spells.word (by decide)
  have hvalues : Spells EndsWord "VALUES".toList [.word "VALUES"] := Spells.word (by decide)
  have hback : Spells EndsWord " DEFAULT VALUES".toList [.word "DEFAULT", .word "VALUES"] :=
    Spells.space.append_anything (hdefault.append_of_head (Spells.space.append_anything hvalues) rfl
      (by decide))
  have hspells : Spells EndsWord ("INSERT INTO " ++ table ++ " DEFAULT VALUES").toList
      [.word "INSERT", .word "INTO", .word table, .word "DEFAULT", .word "VALUES"] := by
    rw [String.toList_append, String.toList_append, List.append_assoc]
    exact spells_insertInto.append_anything
      ((Spells.word htable.word).append_of_head hback rfl (by decide))
  have hunmarked : Unmarked
      [.word "INSERT", .word "INTO", .word table, .word "DEFAULT", .word "VALUES"] :=
    fun m hm => by simp at hm
  obtain ⟨c, rfl, hread⟩ := readCommand_eq hspells hunmarked.marksNext
    ((numbered_of_unmarked hunmarked 0).symm ▸ reads_insertion _ htable
      (Or.inl ⟨rfl, rfl, by simp⟩) (reads_defaults _))
  rw [hread, hunmarked.count_eq_zero]
  rfl

/-- The tokens of an insert up to its markers. -/
def insertHead (table : String) (names : List String) : List Embedded.Token :=
  .word "INSERT" :: .word "INTO" :: .word table :: .sign "(" ::
    (nameTokens names ++ [.sign ")", .word "VALUES", .sign "("])

theorem unmarked_insertHead (table : String) (names : List String) :
    Unmarked (insertHead table names) := by
  intro m hm
  have hnames := unmarked_nameTokens names m
  simp [insertHead, hnames] at hm

/-- The tokens of an insert that writes columns, its markers not numbered yet. -/
def insertTokens (table : String) (names : List String) : List Embedded.Token :=
  insertHead table names ++
    ([.sign ","].intercalate ((List.range names.length).map fun _ => [.marker .next]) ++ [.sign ")"])

/-- The text of an insert with columns is cut into its tokens. -/
theorem spells_insertColumns {table : String} {names : List String} (htable : IsPlainName table)
    (hnames : ∀ s ∈ names, IsPlainName s) :
    Spells EndsWord ("INSERT INTO " ++ table ++ " (" ++ commas names ++ ") VALUES ("
      ++ commas (List.replicate names.length "?") ++ ")").toList (insertTokens table names) := by
  have hopen : Spells Anything " (".toList [.sign "("] :=
    Spells.space.append_anything Spells.leftParen
  have hvalues : Spells EndsWord "VALUES".toList [.word "VALUES"] := Spells.word (by decide)
  have hmiddle : Spells Anything ") VALUES (".toList [.sign ")", .word "VALUES", .sign "("] :=
    Spells.rightParen.append_anything (Spells.space.append_anything
      (hvalues.append_of_head hopen rfl (by decide)))
  have hclose : Spells EndsWord ")".toList [.sign ")"] := fun rest more _ =>
    Spells.rightParen rest more trivial
  have hback := (spells_markers names.length).append_of_head hclose rfl (by decide)
  have hlist := (spells_names hnames).append_of_head (hmiddle.append_anything hback) rfl (by decide)
  have htail := (Spells.word htable.word).append_of_head (hopen.append_anything hlist) rfl (by decide)
  simpa [insertTokens, insertHead] using spells_insertInto.append_anything htail

theorem marksNext_insertTokens (table : String) (names : List String) :
    MarksNext (insertTokens table names) :=
  (unmarked_insertHead table names).marksNext.append
    ((marksNext_markers _).append fun m hm => by simp at hm)

/-- There is a marker for each column. -/
theorem count_insertTokens (table : String) (names : List String) :
    (insertTokens table names).count (.marker .next) = names.length := by
  rw [insertTokens, List.count_append, List.count_append, count_markers, List.length_range,
    (unmarked_insertHead table names).count_eq_zero]
  simp

/-- The markers are numbered from one. -/
theorem numbered_insertTokens (table : String) (names : List String) :
    numbered 0 (insertTokens table names) =
      insertHead table names ++ (markerTokens (List.range' 1 names.length) ++ [.sign ")"]) := by
  have hmarkers := numbered_markers 0 (List.range names.length) [.sign ")"]
  rw [List.length_range] at hmarkers
  rw [insertTokens, numbered_append (unmarked_insertHead table names), hmarkers]
  rfl

/-- An insert that writes columns. -/
theorem readCommand_insert_columns {table : String} {names : List String}
    (htable : IsPlainName table) (hnames : ∀ s ∈ names, IsPlainName s) (hne : names ≠ []) :
    readCommand ("INSERT INTO " ++ table ++ " (" ++ commas names ++ ") VALUES ("
      ++ commas (List.replicate names.length "?") ++ ")") =
      .ok (insertCommand table names, names.length) := by
  have hcount : names.length ≠ 0 := fun h => hne (List.length_eq_zero_iff.mp h)
  have hcolumns : Reads (some <$> parens (items name))
      (.sign "(" :: (nameTokens names ++ [.sign ")"])) Any (· = some names) :=
    ((reads_names hnames hne).parens (by simp)).map fun _ h => congrArg some h
  -- the markers of the tokens are numbered before they are read
  have hreads (source : List Char) : Reads (command source) (numbered 0 (insertTokens table names))
      (· = none) (· = insertCommand table names) := by
    have hinsertion := reads_insertion source htable (Or.inr ⟨rfl, hcolumns⟩)
      (reads_tuples hcount source)
    rw [numbered_insertTokens, insertCommand, if_neg (by simpa using hne)]
    simpa [insertHead] using hinsertion
  obtain ⟨c, rfl, hread⟩ := readCommand_eq (spells_insertColumns htable hnames)
    (marksNext_insertTokens table names) (hreads _)
  rw [hread, count_insertTokens]

/-- The text that inserts a row is read as that. -/
theorem readCommand_insertText {table : String} {names : List String} (htable : IsPlainName table)
    (hnames : ∀ s ∈ names, IsPlainName s) :
    readCommand (insertText table names) = .ok (insertCommand table names, names.length) := by
  rw [insertText]
  by_cases hne : names = []
  · subst hne
    rw [List.isEmpty_nil, if_pos rfl]
    exact readCommand_insert_nil htable
  · rw [← readCommand_insert_columns htable hnames hne, if_neg (by simpa using hne)]
    simp only [String.append_assoc]

end RecordSql
