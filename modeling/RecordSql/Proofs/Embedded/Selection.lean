import Mathlib.Algebra.GroupWithZero.Nat
import RecordSql.Proofs.Embedded.Reading

/-!
# Queries as the embedded database reads them

The queries of the library select columns of a table by some conditions, and may ask for the greatest
key first.  A `Selection` is such a query; its text is read as the command that it stands for
(`readCommand_selection`).
-/

namespace RecordSql

open Embedded Embedded.Phrase

/-! ### Conditions -/

namespace Condition

/-- The tokens of a condition, its marker not being numbered yet. -/
def spelling : Condition → List Embedded.Token
  | isNull column => [.word column, .word "IS", .word "NULL"]
  | equals column _ => [.word column, .sign "=", .marker .next]

/-- The number of markers in a condition. -/
def markers : Condition → Nat
  | isNull _ => 0
  | equals _ _ => 1

/-- The markers of conditions are numbered in turn, from `k + 1` on. -/
def InTurn : Nat → List Condition → Prop
  | _, [] => True
  | k, isNull _ :: conditions => InTurn k conditions
  | k, equals _ n :: conditions => n = k + 1 ∧ InTurn (k + 1) conditions

/-- The conditions of a lookup use the parameters in turn. -/
theorem inTurn_agreement (k : Nat) (cols : List Column) : InTurn k (agreement (k + 1) cols) := by
  induction cols generalizing k with
  | nil => trivial
  | cons c cols ih =>
    rw [agreement]
    split
    · exact ih k
    · exact ⟨rfl, ih (k + 1)⟩

/-- Each of them is on a column that is compared. -/
theorem column_of_mem_agreement {k : Nat} {cols : List Column} {condition : Condition}
    (h : condition ∈ agreement k cols) : ∃ c ∈ cols, condition.column = c.name := by
  induction cols generalizing k with
  | nil => cases h
  | cons c cols ih =>
    rw [agreement] at h
    split at h
    all_goals
      rcases List.mem_cons.mp h with rfl | h
      · exact ⟨c, List.mem_cons_self, rfl⟩
      · obtain ⟨d, hd, hname⟩ := ih h
        exact ⟨d, List.mem_cons_of_mem _ hd, hname⟩

theorem InTurn.tail {k : Nat} {condition : Condition} {conditions : List Condition}
    (h : InTurn k (condition :: conditions)) : InTurn (k + condition.markers) conditions := by
  cases condition with
  | isNull column => exact h
  | equals column n => exact h.2

/-- Numbering the markers of conditions in turn gives each the number that it asks for. -/
theorem numbered_spelling {k : Nat} {condition : Condition} {conditions : List Condition}
    (h : InTurn k (condition :: conditions)) (us : List Embedded.Token) :
    numbered k (condition.spelling ++ us) =
      condition.tokens ++ numbered (k + condition.markers) us := by
  cases condition with
  | isNull column => rfl
  | equals column n =>
    obtain ⟨rfl, -⟩ := h
    rfl

/-- A condition has a marker exactly if it compares. -/
theorem count_spelling (condition : Condition) :
    condition.spelling.count (.marker .next) = condition.markers := by
  cases condition <;> simp [spelling, markers]

theorem marksNext_spelling (condition : Condition) : MarksNext condition.spelling := by
  intro m hm
  cases condition with
  | isNull column => simp [spelling] at hm
  | equals column k => simpa [spelling] using hm

/-- The text of a condition is cut into its tokens. -/
theorem spells_text {condition : Condition} (h : IsPlainName condition.column) :
    Spells EndsWord (condition.text .sqlite).toList condition.spelling := by
  have hname := Spells.word h.word
  cases condition with
  | isNull column =>
    have his : Spells Anything " IS ".toList [.word "IS"] := Spells.spacedWords ["IS"] (by decide)
    have hnull : Spells EndsWord "NULL".toList [.word "NULL"] := Spells.word (by decide)
    have htest : Spells EndsWord " IS NULL".toList [.word "IS", .word "NULL"] :=
      his.append_anything hnull
    rw [text, String.toList_append]
    exact hname.append_of_head htest rfl (by decide)
  | equals column k =>
    have htest : Spells EndsWord ("=".toList ++ ['?']) [.sign "=", .marker .next] :=
      Spells.equalsMarker
    show Spells EndsWord (column ++ "=" ++ String.ofList ['?']).toList _
    rw [String.toList_append, String.toList_append, String.toList_ofList, List.append_assoc]
    exact hname.append_of_head htest rfl (by decide)

end Condition

/-- The tokens of the conditions of a query. -/
def whereTokens (tokens : Condition → List Embedded.Token) : List Condition → List Embedded.Token
  | [] => []
  | condition :: conditions =>
    .word "WHERE" :: (tokens condition ++ conditions.flatMap fun c => .word "AND" :: tokens c)

theorem numbered_furtherTokens {k : Nat} {conditions : List Condition}
    (h : Condition.InTurn k conditions) {us : List Embedded.Token} (hus : Unmarked us) :
    numbered k ((conditions.flatMap fun c => .word "AND" :: c.spelling) ++ us) =
      furtherTokens conditions ++ us := by
  induction conditions generalizing k with
  | nil => exact numbered_of_unmarked hus k
  | cons condition conditions ih =>
    have hword : Embedded.Token.word "AND" ≠ .marker .next := by decide
    rw [List.flatMap_cons, List.cons_append, List.cons_append, List.append_assoc,
      numbered_of_not_marker hword, Condition.numbered_spelling h, ih h.tail, furtherTokens,
      furtherTokens, List.flatMap_cons, List.cons_append, List.cons_append, List.append_assoc]

/-- The conditions behind `WHERE` are numbered from one. -/
theorem numbered_whereTokens {conditions : List Condition} (h : Condition.InTurn 0 conditions)
    {us : List Embedded.Token} (hus : Unmarked us) :
    numbered 0 (whereTokens Condition.spelling conditions ++ us) =
      whereTokens Condition.tokens conditions ++ us := by
  cases conditions with
  | nil => exact numbered_of_unmarked hus 0
  | cons condition conditions =>
    have hfurther := numbered_furtherTokens h.tail hus
    have hword : Embedded.Token.word "WHERE" ≠ .marker .next := by decide
    rw [whereTokens, List.cons_append, List.append_assoc, numbered_of_not_marker hword,
      Condition.numbered_spelling h, hfurther, whereTokens, List.cons_append, List.append_assoc]
    rfl

/-! ### Phrases of queries -/

namespace Embedded.Phrase

/-- The other way is gone where the first one fails. -/
theorem Reads.orElse {α : Type} {p q : Phrase α} {ts : List Token} {before : Option Token → Prop}
    {P : α → Prop} (hq : Reads q ts before P)
    (hp : ∀ ls rest : List Lexeme, ls.map (·.token) = ts → before (next rest) →
      p.run (ls ++ rest) = none) : Reads (p <|> q) ts before P := by
  intro ls rest hls hrest
  obtain ⟨a, ha, hrun⟩ := hq ls rest hls hrest
  refine ⟨a, ha, ?_⟩
  show (p.run (ls ++ rest) <|> q.run (ls ++ rest)) = _
  rw [hp ls rest hls hrest, hrun]
  rfl

/-- Rows are not counted without a parenthesis. -/
theorem run_countItem_eq_none (source : List Char) {l : Lexeme} {ls : List Lexeme}
    (h : next ls ≠ some (.sign "(")) : (countItem source).run (l :: ls) = none := by
  show (takeWords ["count"] >>= fun _ => takeSign "(" >>= _ : Phrase Projection).run (l :: ls) = none
  rw [StateT.run_bind]
  -- a name may be `count`, but a bracket would have to follow
  by_cases hcount : isWord "count" l.token = true
  · have hword := reads_takeWords (.cons hcount .nil)
    obtain ⟨_, -, htaken⟩ := hword [l] ls rfl trivial
    obtain ⟨_, rfl, habsent⟩ := reads_takeSign?_false [] ls rfl h
    have hsign : (takeSign "(").run ls = none := by
      rw [takeSign, StateT.run_bind]
      rw [List.nil_append] at habsent
      rw [habsent]
      rfl
    rw [List.singleton_append] at htaken
    rw [htaken, Option.bind_eq_bind, Option.bind_some, StateT.run_bind, hsign]
    rfl
  · have hnext : (next (l :: ls)).any (isWord "count") = false := Bool.eq_false_iff.mpr hcount
    obtain ⟨_, rfl, habsent⟩ := reads_takeWord?_false [] (l :: ls) rfl hnext
    have hword : (takeWords ["count"]).run (l :: ls) = none := by
      rw [takeWords, StateT.run_bind]
      rw [List.nil_append] at habsent
      rw [habsent]
      rfl
    rw [hword]
    rfl

/-- Whether the next token ends an item of a query. -/
def EndsItem (t : Option Token) : Prop :=
  t = some (.sign ",") ∨ t = some (.word "FROM")

/-- What is no operator goes on no expression. -/
theorem stops_some {t : Token} (test : nullTest? t = none) (hop : operator? t = none) (level : Nat) :
    Stops level (some t) := by
  rintro _ ⟨⟩
  exact ⟨test, fun op own h => by rw [hop] at h; cases h⟩

theorem EndsItem.stops {t : Option Token} (h : EndsItem t) : Stops 0 t := by
  rcases h with rfl | rfl
  · exact stops_some rfl rfl 0
  · exact stops_some (by decide) (by decide) 0

/-- A column as an item. -/
theorem reads_item (source : List Char) {s : String} (h : IsPlainName s) :
    Reads (item source) [.word s] EndsItem (fun i => i.value = .column s ∧ i.label = none) := by
  have hexpr : Reads expr [.word s] (Stops 0) (· = .column s) :=
    reads_get fun left _ => reads_exprIn_atom (isAtom_word h) _ 0
  have hlabel : Reads label? [] EndsItem (· = none) := by
    refine .orElseWord (reads_plainName?_none.mono ?_ fun _ h => h) ?_
    · rintro _ (rfl | rfl) <;> decide
    · rintro _ (rfl | rfl) <;> decide
  refine reads_get fun start _ => ?_
  refine Reads.bind_last hexpr ?_ fun _ ht => ht.stops
  rintro _ rfl
  refine reads_get fun left _ => ?_
  exact Reads.bind_pure hlabel fun _ h => ⟨rfl, h⟩

/-- Whether a projection is of the columns with the given names. -/
def Selects (names : List String) (p : Projection) : Prop :=
  ∃ items, p = .items items ∧
    List.Forall₂ (fun s (i : Item) => i.value = .column s ∧ i.label = none) names items

/-- Names of columns are read as the projection that selects them. -/
theorem reads_projection (source : List Char) {names : List String}
    (h : ∀ s ∈ names, IsPlainName s) (hne : names ≠ []) :
    Reads (projection source) (nameTokens names) (· = some (.word "FROM")) (Selects names) := by
  have hitems : Reads (Projection.items <$> items (item source)) (nameTokens names)
      (· = some (.word "FROM")) (Selects names) := by
    refine Reads.map ((Reads.items (fun s hs => reads_item source (h s hs)) (Or.inl rfl) hne).mono
      ?_ fun _ h => h) fun items hitems => ⟨items, rfl, hitems⟩
    rintro _ rfl
    exact ⟨by simp, Or.inr rfl⟩
  obtain ⟨s, names, rfl⟩ := List.exists_cons_of_ne_nil hne
  have htokens : nameTokens (s :: names) = .word s :: (names.flatMap fun s => [.sign ",", .word s]) := by
    rw [nameTokens, List.map_cons, intercalate_cons, List.flatMap_map]
    rfl
  rw [htokens] at hitems ⊢
  refine Reads.bind_nil reads_takeSign?_false ?_ fun _ _ => by simp
  rintro _ rfl
  -- the way that reads a count fails on a list of names
  refine Reads.orElse hitems fun ls rest hls hrest => ?_
  obtain ⟨l, ls, rfl, -, hls⟩ := List.map_eq_cons_iff.mp hls
  rw [List.cons_append]
  refine run_countItem_eq_none source ?_
  rw [next_append hls, hrest]
  cases names <;> simp

/-- Whether the next token ends the conditions of a query. -/
def EndsConditions (t : Option Token) : Prop :=
  t = none ∨ t = some (.word "ORDER")

theorem EndsConditions.stops {t : Option Token} (h : EndsConditions t) : Stops 0 t := by
  rcases h with rfl | rfl
  · rintro _ ⟨⟩
  · exact stops_some (by decide) (by decide) 0

/-- The conjunction of conditions, if there are any. -/
def conjunction? : List Condition → Option (Expr String)
  | [] => none
  | condition :: conditions => some (conjunction condition.expr conditions)

/-- Conditions behind `WHERE` are read as their conjunction. -/
theorem reads_condition {conditions : List Condition}
    (h : ∀ c ∈ conditions, IsPlainName c.column) :
    Reads condition (whereTokens Condition.tokens conditions) EndsConditions
      (· = conjunction? conditions) := by
  cases conditions with
  | nil =>
    refine .orElseWord (reads_pure none) ?_
    rintro _ (rfl | rfl) <;> decide
  | cons first conditions =>
    refine Reads.bind_cons (reads_takeWord? (by decide)) ?_ fun _ _ => trivial
    rintro _ rfl
    have hexpr : Reads expr (first.tokens ++ furtherTokens conditions) EndsConditions
        (· = conjunction first.expr conditions) := (reads_expr h).mono (fun _ ht => ht.stops) fun _ h => h
    exact Reads.bind_pure hexpr fun _ h => congrArg some h

/-- The tokens of an order that puts the greatest first. -/
def orderTokens : Option String → List Token
  | none => []
  | some s => [.word "ORDER", .word "BY", .word s, .word "DESC"]

/-- The order that puts the greatest first. -/
def orderTerms (descending : Option String) : List OrderTerm :=
  descending.toList.map fun s => ⟨.column s, true⟩

/-- A name with `DESC` is read as the descending order of its column. -/
theorem reads_orderTerm {s : String} (h : IsPlainName s) :
    Reads orderTerm [.word s, .word "DESC"] Any (· = ⟨.column s, true⟩) := by
  have hexpr : Reads expr [.word s] (Stops 0) (· = .column s) :=
    reads_get fun left _ => reads_exprIn_atom (isAtom_word h) _ 0
  refine Reads.bind_cons hexpr ?_ fun _ _ => stops_some (by decide) (by decide) 0
  rintro _ rfl
  refine Reads.bind_last (reads_takeWord? (by decide)) ?_ fun _ _ => trivial
  rintro _ rfl
  exact reads_pure _

/-- What follows `SELECT` is read part by part: the names, the table, the conditions and the order.
-/
theorem reads_queryRest (source : List Char) {table : String} {names : List String}
    {conditions : List Condition} {descending : Option String} (htable : IsPlainName table)
    (hnames : ∀ s ∈ names, IsPlainName s) (hne : names ≠ [])
    (hconditions : ∀ c ∈ conditions, IsPlainName c.column)
    (hdescending : ∀ s ∈ descending, IsPlainName s) :
    Reads (queryRest source)
      (nameTokens names ++ .word "FROM" :: .word table ::
        (whereTokens Condition.tokens conditions ++ orderTokens descending)) (· = none)
      (fun q => Selects names q.projection ∧ q.source = some table ∧
        q.condition = conjunction? conditions ∧ q.order = orderTerms descending) := by
  refine Reads.bind (reads_projection source hnames hne) (fun projection hprojection => ?_) ?_
  · refine Reads.bind_cons (reads_takeWord? (by decide)) ?_ fun _ _ => trivial
    rintro _ rfl
    have htable : Reads (some <$> name) [.word table] Any (· = some table) :=
      (reads_name htable).map fun _ h => congrArg some h
    refine Reads.bind_cons htable ?_ fun _ _ => trivial
    rintro _ rfl
    refine Reads.bind (reads_condition hconditions) ?_ ?_
    · rintro _ rfl
      -- without an order the query ends behind its conditions
      cases descending with
      | none =>
        refine .orElseWord ?_ ?_
        · exact (reads_pure _).mono (fun _ h => h) fun _ h => h ▸ ⟨hprojection, rfl, rfl, rfl⟩
        · rintro _ rfl
          rfl
      | some s =>
        have hterms := reads_items_one (reads_orderTerm (hdescending s rfl)) trivial
        have horder : Reads (do takeWords ["by"]; items orderTerm)
            [.word "BY", .word s, .word "DESC"] (· = none) (· = orderTerms (some s)) := by
          refine Reads.bind_cons (reads_takeWords (.cons (by decide) .nil)) (fun _ _ => ?_)
            fun _ _ => trivial
          refine hterms.mono ?_ fun _ h => h
          rintro _ rfl
          exact ⟨by simp, trivial⟩
        refine Reads.bind_cons (reads_takeWord? (by decide)) ?_ fun _ _ => trivial
        rintro _ rfl
        refine Reads.bind_last horder ?_ fun _ ht => ht
        rintro _ rfl
        exact (reads_pure _).mono (fun _ h => h) fun _ h => h ▸ ⟨hprojection, rfl, rfl, rfl⟩
    · rintro _ rfl
      cases descending with
      | none => exact Or.inl rfl
      | some s => exact Or.inr rfl
  · rintro _ rfl
    rfl

end Embedded.Phrase

/-! ### Whole queries -/

/-- A query for columns of the rows of a table that satisfy some conditions, the greatest in the column
`descending` first, if that is given. -/
structure Selection where
  table : String
  names : List String
  conditions : List Condition
  descending : Option String

namespace Selection

/-- The text of the conditions. -/
def whereText (conditions : List Condition) : String :=
  if conditions.isEmpty then ""
  else " WHERE " ++ " AND ".intercalate (conditions.map (·.text .sqlite))

/-- The text of the order. -/
def orderText : Option String → String
  | none => ""
  | some name => " ORDER BY " ++ name ++ " DESC"

/-- The text of a query. -/
def text (q : Selection) : String :=
  "SELECT " ++ commas q.names ++ " FROM " ++ q.table ++ whereText q.conditions
    ++ orderText q.descending

/-- Whether the names in a query are plain, and its markers are numbered in turn. -/
structure IsPlain (q : Selection) : Prop where
  table : IsPlainName q.table
  names : ∀ s ∈ q.names, IsPlainName s
  nonempty : q.names ≠ []
  conditions : ∀ c ∈ q.conditions, IsPlainName c.column
  descending : ∀ s ∈ q.descending, IsPlainName s
  inTurn : Condition.InTurn 0 q.conditions

/-- The number of values that the markers of a query take. -/
def markers (q : Selection) : Nat :=
  (q.conditions.map Condition.markers).sum

/-- The tokens of a query up to its conditions. -/
def head (q : Selection) : List Embedded.Token :=
  .word "SELECT" :: (nameTokens q.names ++ [.word "FROM", .word q.table])

/-- The tokens of a query, its markers not being numbered yet. -/
def spelling (q : Selection) : List Embedded.Token :=
  q.head ++ (whereTokens Condition.spelling q.conditions ++ orderTokens q.descending)

/-- Conditions are separated by `AND` and blanks. -/
theorem toList_intercalate_and (condition : Condition) (conditions : List Condition) :
    (" AND ".intercalate ((condition :: conditions).map (·.text .sqlite))).toList =
      (condition.text .sqlite).toList ++
        conditions.flatMap fun c => " AND ".toList ++ (c.text .sqlite).toList := by
  rw [String.toList_intercalate, List.map_map, List.map_cons, intercalate_cons, List.flatMap_map]
  rfl

theorem spells_further {conditions : List Condition}
    (h : ∀ c ∈ conditions, IsPlainName c.column) :
    Spells EndsWord (conditions.flatMap fun c => " AND ".toList ++ (c.text .sqlite).toList)
      (conditions.flatMap fun c => .word "AND" :: c.spelling) := by
  have hand : Spells Anything " AND ".toList [.word "AND"] :=
    Spells.spacedWords ["AND"] (by decide)
  induction conditions with
  | nil => exact Spells.nil
  | cons condition conditions ih =>
    obtain ⟨hcondition, hconditions⟩ := List.forall_mem_cons.mp h
    have hfirst := hand.append_anything (Condition.spells_text hcondition)
    refine hfirst.append (ih hconditions) fun rest hrest => ?_
    cases conditions with
    | nil => exact hrest
    | cons c cs => exact endsWord_cons (by decide) _

/-- The conditions of a query are cut into their tokens. -/
theorem spells_where {conditions : List Condition} (h : ∀ c ∈ conditions, IsPlainName c.column) :
    Spells EndsWord (whereText conditions).toList (whereTokens Condition.spelling conditions) := by
  cases conditions with
  | nil => exact Spells.nil
  | cons condition conditions =>
    obtain ⟨hcondition, hconditions⟩ := List.forall_mem_cons.mp h
    have hwhere : Spells Anything " WHERE ".toList [.word "WHERE"] :=
      Spells.spacedWords ["WHERE"] (by decide)
    rw [whereText, List.isEmpty_cons, if_neg Bool.false_ne_true, String.toList_append,
      toList_intercalate_and]
    refine hwhere.append_anything ((Condition.spells_text hcondition).append
      (spells_further hconditions) fun rest hrest => ?_)
    cases conditions with
    | nil => exact hrest
    | cons c cs => exact endsWord_cons (by decide) _

/-- So is its order, if it asks for one. -/
theorem spells_order {descending : Option String} (h : ∀ s ∈ descending, IsPlainName s) :
    Spells EndsWord (orderText descending).toList (orderTokens descending) := by
  cases descending with
  | none => exact Spells.nil
  | some s =>
    have horder : Spells Anything " ORDER BY ".toList [.word "ORDER", .word "BY"] :=
      Spells.spacedWords ["ORDER", "BY"] (by decide)
    have hdesc : Spells EndsWord "DESC".toList [.word "DESC"] := Spells.word (by decide)
    have hback : Spells EndsWord " DESC".toList [.word "DESC"] := Spells.space.append_anything hdesc
    rw [orderText, String.toList_append, String.toList_append, List.append_assoc]
    exact horder.append_anything ((Spells.word (h s rfl).word).append_of_head hback rfl (by decide))

/-- No order and no condition goes on with the word in front of it. -/
theorem endsWord_order (descending : Option String) {rest : List Char} (h : EndsWord rest) :
    EndsWord ((orderText descending).toList ++ rest) := by
  cases descending with
  | none => exact h
  | some s =>
    have hblank : isWordChar ' ' = false ∧ ' ' ≠ '\'' := by decide
    rw [orderText, String.toList_append, String.toList_append]
    exact endsWord_cons hblank _

theorem endsWord_where (conditions : List Condition) {rest : List Char} (h : EndsWord rest) :
    EndsWord ((whereText conditions).toList ++ rest) := by
  cases conditions with
  | nil => exact h
  | cons c cs =>
    have hblank : isWordChar ' ' = false ∧ ' ' ≠ '\'' := by decide
    rw [whereText, List.isEmpty_cons, if_neg Bool.false_ne_true, String.toList_append]
    exact endsWord_cons hblank _

/-- The text of a query is cut into its tokens. -/
theorem spells {q : Selection} (h : q.IsPlain) : Spells EndsWord q.text.toList q.spelling := by
  have hselect : Spells Anything "SELECT ".toList [.word "SELECT"] :=
    Spells.words ["SELECT"] (by decide)
  have hfrom : Spells Anything " FROM ".toList [.word "FROM"] :=
    Spells.spacedWords ["FROM"] (by decide)
  have hback := (spells_where h.conditions).append (spells_order h.descending)
    fun rest => endsWord_order q.descending
  have htable := (Spells.word h.table.word).append hback fun rest hrest => by
    rw [List.append_assoc]
    exact endsWord_where q.conditions (endsWord_order q.descending hrest)
  have hnames := (spells_names h.names).append_of_head (hfrom.append_anything htable) rfl (by decide)
  have hall := hselect.append_anything hnames
  simp only [text, String.toList_append, List.append_assoc, spelling, head, List.cons_append,
    List.nil_append] at hall ⊢
  exact hall

theorem unmarked_head (q : Selection) : Unmarked q.head := by
  intro m hm
  have hnames := unmarked_nameTokens q.names m
  simp [head, hnames] at hm

theorem unmarked_order (descending : Option String) : Unmarked (orderTokens descending) := by
  intro m hm
  cases descending <;> simp [orderTokens] at hm

theorem marksNext_where (conditions : List Condition) :
    MarksNext (whereTokens Condition.spelling conditions) := by
  cases conditions with
  | nil => exact fun m hm => by cases hm
  | cons condition conditions =>
    intro m hm
    rcases List.mem_cons.mp hm with hm | hm
    · cases hm
    rcases List.mem_append.mp hm with hm | hm
    · exact condition.marksNext_spelling m hm
    · obtain ⟨c, -, hc⟩ := List.mem_flatMap.mp hm
      rcases List.mem_cons.mp hc with hc | hc
      · cases hc
      · exact c.marksNext_spelling m hc

theorem count_where (conditions : List Condition) :
    (whereTokens Condition.spelling conditions).count (.marker .next) =
      (conditions.map Condition.markers).sum := by
  have hfurther : (conditions.flatMap fun c => Embedded.Token.word "AND" :: c.spelling).count
      (.marker .next) = (conditions.map Condition.markers).sum := by
    induction conditions with
    | nil => rfl
    | cons condition conditions ih =>
      rw [List.flatMap_cons, List.count_append, ih, List.count_cons_of_ne (by decide),
        Condition.count_spelling, List.map_cons, List.sum_cons]
  cases conditions with
  | nil => rfl
  | cons condition conditions =>
    rw [List.flatMap_cons, List.cons_append, List.count_cons_of_ne (by decide)] at hfurther
    rw [whereTokens, List.count_cons_of_ne (by decide), hfurther]

/-- A query has as many markers as its conditions. -/
theorem count_spelling (q : Selection) : q.spelling.count (.marker .next) = q.markers := by
  rw [spelling, List.count_append, List.count_append, q.unmarked_head.count_eq_zero, count_where,
    (unmarked_order q.descending).count_eq_zero, Nat.zero_add, Nat.add_zero, markers]

theorem marksNext_spelling (q : Selection) : MarksNext q.spelling :=
  q.unmarked_head.marksNext.append
    ((marksNext_where q.conditions).append (unmarked_order q.descending).marksNext)

/-- A query is read as that. -/
theorem readCommand_selection {q : Selection} (h : q.IsPlain) :
    ∃ projection, Selects q.names projection ∧
      readCommand q.text = .ok (.query ⟨projection, some q.table, conjunction? q.conditions,
        orderTerms q.descending⟩, q.markers) := by
  have hnumbered : numbered 0 q.spelling =
      q.head ++ (whereTokens Condition.tokens q.conditions ++ orderTokens q.descending) := by
    rw [spelling, numbered_append q.unmarked_head,
      numbered_whereTokens h.inTurn (unmarked_order q.descending)]
  have hreads : Reads (command q.text.toList) (numbered 0 q.spelling) (· = none)
      (fun c => ∃ projection, Selects q.names projection ∧ c = .query ⟨projection, some q.table,
        conjunction? q.conditions, orderTerms q.descending⟩) := by
    have hrest := reads_queryRest q.text.toList h.table h.names h.nonempty h.conditions h.descending
    rw [hnumbered, head, List.cons_append, List.append_assoc]
    refine reads_command "select" (by decide) ?_
    refine Reads.bind_pure hrest ?_
    rintro ⟨projection, table, condition, order⟩ ⟨hprojection, rfl, rfl, rfl⟩
    exact ⟨projection, hprojection, rfl⟩
  obtain ⟨_, ⟨projection, hprojection, rfl⟩, hread⟩ :=
    readCommand_eq (spells h) q.marksNext_spelling hreads
  exact ⟨projection, hprojection, by rw [hread, count_spelling]⟩

/-! ### The queries of the library -/

/-- The selection of the columns of a row by its key. -/
def ofGet (table : String) (row : List Column) (key : Column) : Selection :=
  ⟨table, row.map (·.name), [.equals key.name 1], none⟩

/-- A query for keys. -/
def ofKeyQuery (q : KeyQuery) : Selection :=
  ⟨q.table, [q.key], q.conditions, some q.key⟩

/-- The text that reads a record by its key is that of a query for all columns. -/
theorem text_ofGet (table : String) (row : List Column) (key : Column) :
    (Shape.get table row key).sql .sqlite = (ofGet table row key).text := by
  show "SELECT " ++ nameList row ++ " FROM " ++ table ++ " WHERE " ++ key.name ++ "=" ++ "?" =
    "SELECT " ++ commas (row.map (·.name)) ++ " FROM " ++ table
      ++ (" WHERE " ++ " AND ".intercalate [key.name ++ "=" ++ "?"]) ++ ""
  rw [String.intercalate_singleton, nameList, String.append_empty]
  simp only [String.append_assoc]

/-- The statement that reads a record is such a query, with the key as its only parameter. -/
theorem get_eq_ofGet {table : String} {row : List Column} {st : Statement} {key : Column}
    (h : Statement.get .sqlite table row = .ok st) (hkey : primaryKey? row = some key) :
    st = ⟨(ofGet table row key).text, [key.value]⟩ := by
  cases hcheck : checkRow table row with
  | error e =>
    rw [Statement.get, Shape.getOf, requireKey, hcheck] at h
    cases h
  | ok _ =>
    rw [Statement.get, Shape.getOf, requireKey, hcheck, hkey] at h
    rw [← text_ofGet]
    exact (Except.ok.inj h).symm

/-- Its names are plain if those of the record are. -/
theorem isPlain_ofGet {table : String} {row : List Column} {key : Column}
    (htable : IsPlainName table) (hnames : ∀ c ∈ row, IsPlainName c.name) (hkey : key ∈ row) :
    (ofGet table row key).IsPlain where
  table := htable
  names s hs := by
    obtain ⟨c, hc, rfl⟩ := List.mem_map.mp hs
    exact hnames c hc
  nonempty h := List.ne_nil_of_mem hkey (List.map_eq_nil_iff.mp h)
  conditions c hc := by
    rw [List.mem_singleton.mp hc]
    exact hnames key hkey
  descending := fun _ h => by cases h
  inTurn := ⟨rfl, trivial⟩

/-- The text of a key lookup is that of a query. -/
theorem text_ofKeyQuery (q : KeyQuery) : q.text .sqlite = (ofKeyQuery q).text := by
  show "SELECT " ++ q.key ++ " FROM " ++ q.table ++ whereText q.conditions ++ " ORDER BY " ++ q.key
      ++ " DESC" =
    "SELECT " ++ commas [q.key] ++ " FROM " ++ q.table ++ whereText q.conditions
      ++ (" ORDER BY " ++ q.key ++ " DESC")
  rw [commas, String.intercalate_singleton]
  simp only [String.append_assoc]

/-- Its names are plain if those of the record are. -/
theorem isPlain_ofKeyQuery {table : String} {row : List Column} {key : Column}
    (htable : IsPlainName table) (hnames : ∀ c ∈ row, IsPlainName c.name) (hkey : key ∈ row) :
    (ofKeyQuery (keyQuery table row key)).IsPlain where
  table := htable
  names s hs := by
    rw [List.mem_singleton.mp hs]
    exact hnames key hkey
  nonempty := List.cons_ne_nil _ _
  conditions condition hcondition := by
    obtain ⟨c, hc, hname⟩ := Condition.column_of_mem_agreement hcondition
    rw [hname]
    exact hnames c (List.mem_filter.mp hc).1
  descending := by
    rintro _ ⟨⟩
    exact hnames key hkey
  inTurn := Condition.inTurn_agreement 0 (Shape.filters row)

end Selection

end RecordSql
