import RecordSql.Client.Replay
import RecordSql.Operation
import RecordSql.Proofs.Script.Trace
import RecordSql.Proofs.Template.Reading

/-!
# What a select sends

A select puts the clause of a caller behind a text of its own and compiles the whole.  As long as
the sigil does not occur in its own text, only the clause is rewritten.  A usable sigil is no name
character and no blank, so the only character of that text it can be is the comma between the
columns: a select with the sigil `,` and more than one column takes the names of its own columns for
parameters (`select_sends_iff`).
-/

namespace RecordSql

/-! ### Compiling behind a text without sigils -/

/-- A beginning without the sigil is copied. -/
theorem compile_append {sigil : Char} {a : String} (h : sigil ∉ a.toList) (m : Markers)
    (b : String) : compile sigil m (a ++ b) =
      (⟨a ++ (compile sigil m b).1.sql, (compile sigil m b).1.params⟩, (compile sigil m b).2) := by
  have ht : Template.ofText sigil (a ++ b) =
      ⟨a.toList ++ (Template.ofText sigil b).head, (Template.ofText sigil b).parameters⟩ := by
    rw [Template.ofText, String.toList_append, Template.outside_append h]
    rfl
  have hrender : (Template.ofText sigil (a ++ b)).render m.style m.count =
      a.toList ++ (Template.ofText sigil b).render m.style m.count := by
    rw [ht, Template.render, Template.fill, List.append_assoc]
    rfl
  rw [compile, hrender, ht, String.ofList_append, String.ofList_toList]
  rfl

theorem marker_eq_cons (style : MarkerStyle) (k : Nat) :
    ∃ ds, style.marker k = style.introducer :: ds := by
  cases style with
  | question => exact ⟨[], rfl⟩
  | numbered => exact ⟨Nat.toDigits 10 k, rfl⟩

/-- The first sigil of a text gives way to a marker. -/
theorem compile_append_sigil {sigil : Char} {a : List Char} (h : sigil ∉ a) (m : Markers)
    {text : String} {b : List Char} (htext : text.toList = a ++ sigil :: b) :
    ∃ rest, (compile sigil m text).1.sql.toList = a ++ m.style.introducer :: rest := by
  obtain ⟨ds, hds⟩ := marker_eq_cons m.style (m.count + 0 + 1)
  constructor
  rw [compile, Template.ofText, htext, Template.outside_append h, Template.outside_sigil,
    String.toList_ofList, Template.render, Template.fill, Template.fillFrom, hds, List.append_nil,
    List.append_assoc, List.cons_append]

/-! ### The text of a select -/

/-- Whether a text is a name: not empty, and of name characters only. -/
def IsName (s : String) : Prop :=
  s ≠ "" ∧ ∀ c ∈ s.toList, isNameChar c = true

instance (s : String) : Decidable (IsName s) :=
  decidable_of_iff (s ≠ "" ∧ s.toList.all isNameChar = true) (by rw [IsName, List.all_eq_true])

/-- The text of a select in front of the clause. -/
def selectHead (table : String) (row : List Column) : String :=
  "SELECT " ++ ",".intercalate (row.map (·.name)) ++ " FROM " ++ table

/-- A clause as it stands behind the text of a select. -/
def clauseTail (clause : String) : String :=
  if clause.isEmpty then "" else " " ++ clause

/-- What a list of columns has besides the columns are the commas between them. -/
theorem mem_intercalate_comma {c : Char} {items : List String}
    (h : c ∈ (",".intercalate items).toList) :
    (c = ',' ∧ 2 ≤ items.length) ∨ ∃ s ∈ items, c ∈ s.toList := by
  induction items with
  | nil => simp at h
  | cons s items ih =>
    cases items with
    | nil =>
      rw [String.intercalate_singleton] at h
      exact Or.inr ⟨s, List.mem_cons_self, h⟩
    | cons t items =>
      rw [String.intercalate_cons_cons, String.toList_append, String.toList_append, List.mem_append,
        List.mem_append] at h
      -- the character is of the first item, of the comma behind it, or further behind
      rcases h with (hs | hcomma) | hrest
      · exact Or.inr ⟨s, List.mem_cons_self, hs⟩
      · left
        exact ⟨List.mem_singleton.mp hcomma, by simp⟩
      · rcases ih hrest with ⟨hc, -⟩ | ⟨u, hu, hmem⟩
        · exact Or.inl ⟨hc, by simp⟩
        · exact Or.inr ⟨u, List.mem_cons_of_mem s hu, hmem⟩

theorem Config.isUsable_of_validate {c : Config} (h : c.validate = .ok ()) :
    Config.isUsable c.sigil = true := by
  unfold Config.validate at h
  split at h
  · assumption
  · cases h

theorem Config.isUsable_eq_false {c : Char} (h : isNameChar c = true) :
    Config.isUsable c = false := by
  rw [Config.isUsable, h]
  rfl

/-- A usable sigil in the text of a select is one of the commas between its columns. -/
theorem eq_comma_of_mem_selectHead {sigil : Char} {table : String} {row : List Column}
    (usable : Config.isUsable sigil = true) (htable : IsName table)
    (hrow : ∀ c ∈ row, IsName c.name)
    (h : sigil ∈ (selectHead table row).toList) : sigil = ',' ∧ 2 ≤ row.length := by
  have hname : ∀ s : String, IsName s → sigil ∉ s.toList := by
    intro s hs hmem
    rw [Config.isUsable_eq_false (hs.2 sigil hmem)] at usable
    cases usable
  have hkeyword : ∀ s ∈ ["SELECT ", " FROM "], sigil ∉ s.toList := by
    intro s hs hmem
    have hall : ∀ s ∈ ["SELECT ", " FROM "], s.toList.all (!Config.isUsable ·) = true := by decide
    have hsigil := List.all_eq_true.mp (hall s hs) sigil hmem
    rw [usable] at hsigil
    cases hsigil
  rw [selectHead, String.toList_append, String.toList_append, String.toList_append, List.mem_append,
    List.mem_append, List.mem_append] at h
  -- the four parts of the text: a keyword, the columns, a keyword, and the table
  rcases h with ((h | h) | h) | h
  · exact absurd h (hkeyword _ (by simp))
  · rcases mem_intercalate_comma h with ⟨hc, hlength⟩ | ⟨s, hs, hmem⟩
    · exact ⟨hc, by rwa [List.length_map] at hlength⟩
    · obtain ⟨column, hcolumn, rfl⟩ := List.mem_map.mp hs
      exact absurd hmem (hname _ (hrow column hcolumn))
  · exact absurd h (hkeyword _ (by simp))
  · exact absurd h (hname _ htable)

/-- The text of a select starts with the first column, and the second follows behind a comma. -/
theorem selectHead_cons_cons (table : String) (c d : Column) (row : List Column) :
    ∃ rest, (selectHead table (c :: d :: row)).toList =
      ("SELECT " ++ c.name).toList ++ ',' :: rest := by
  refine ⟨(",".intercalate ((d :: row).map (·.name)) ++ " FROM " ++ table).toList, ?_⟩
  rw [selectHead, List.map_cons, List.map_cons, String.intercalate_cons_cons]
  simp only [String.toList_append, List.append_assoc]
  rfl

/-! ### Compiling it -/

/-- A clause is compiled behind the text of a select as it is alone. -/
theorem compile_selectHead {sigil : Char} {table : String} {row : List Column}
    (usable : Config.isUsable sigil = true) (h : sigil ∉ (selectHead table row).toList)
    (m : Markers) (clause : String) :
    (compile sigil m (selectHead table row ++ clauseTail clause)).1 =
      ⟨selectHead table row ++
          (if clause.isEmpty then "" else " " ++ (compile sigil m clause).1.sql),
        (compile sigil m clause).1.params⟩ := by
  have hblank : sigil ∉ " ".toList := by
    intro hmem
    rw [List.mem_singleton.mp hmem] at usable
    revert usable
    decide
  rw [compile_append h, clauseTail]
  cases hclause : clause.isEmpty with
  | true =>
    obtain rfl := String.isEmpty_iff.mp hclause
    rfl
  | false => rw [if_neg Bool.false_ne_true, if_neg Bool.false_ne_true, compile_append hblank]

/-- If the comma is the sigil, the first comma between the columns gives way to a marker. -/
theorem sql_ne_of_comma {m : Markers} {table : String} {row : List Column} {clause tail : String}
    (usable : Config.isUsable ',' = true) (hrow : ∀ c ∈ row, IsName c.name)
    (hlength : 2 ≤ row.length) :
    (compile ',' m (selectHead table row ++ clauseTail clause)).1.sql ≠
      selectHead table row ++ tail := by
  rcases row with _ | ⟨c, _ | ⟨d, row⟩⟩
  · cases hlength
  · exact absurd hlength (by simp)
  · obtain ⟨rest, hrest⟩ := selectHead_cons_cons table c d row
    have hfirst : ',' ∉ ("SELECT " ++ c.name).toList := by
      intro hmem
      rw [String.toList_append, List.mem_append] at hmem
      rcases hmem with hmem | hmem
      · revert hmem
        decide
      · rw [Config.isUsable_eq_false ((hrow c List.mem_cons_self).2 _ hmem)] at usable
        cases usable
    have htext : (selectHead table (c :: d :: row) ++ clauseTail clause).toList =
        ("SELECT " ++ c.name).toList ++ ',' :: (rest ++ (clauseTail clause).toList) := by
      rw [String.toList_append, hrest, List.append_assoc, List.cons_append]
    obtain ⟨rest', hsql⟩ := compile_append_sigil hfirst m htext
    intro h
    -- behind the first column there is a comma on one side and a marker on the other
    rw [h, String.toList_append, hrest, List.append_assoc, List.append_cancel_left_eq,
      List.cons_append, List.cons.injEq] at hsql
    obtain ⟨hcomma, -⟩ := hsql
    revert hcomma
    cases m.style <;> decide

/-! ### Its statement -/

theorem select_eq_ok {table : String} {row : List Column} (clause : String) (htable : table ≠ "")
    (hrow : row ≠ []) :
    Statement.select table row clause = .ok (selectHead table row ++ clauseTail clause) := by
  have hempty : row.isEmpty = false := List.isEmpty_eq_false_iff.mpr hrow
  have hname : table.isEmpty = false := String.isEmpty_eq_false_iff.mpr htable
  rw [Statement.select, checkRow, checkTable, hname, hempty, if_neg Bool.false_ne_true,
    if_neg Bool.false_ne_true]
  rfl

namespace Operation

variable {ρ σ : Type} [Record ρ]

theorem selectStatement_eq (c : Config) (r : ρ) (clause : String) (args : List Argument)
    (htable : Record.table r ≠ "") (hrow : Record.row r c.dialect ≠ []) :
    selectStatement c r clause args =
      Statement.named c.dialect c.sigil
        (selectHead (Record.table r) (Record.row r c.dialect) ++ clauseTail clause) args := by
  have hempty : (Record.row r c.dialect).isEmpty = false := List.isEmpty_eq_false_iff.mpr hrow
  rw [selectStatement, hempty, if_neg Bool.false_ne_true, select_eq_ok clause htable hrow]
  exact pure_bind (selectHead (Record.table r) (Record.row r c.dialect) ++ clauseTail clause) _

/-- A select hands its statement to the client, if it has one. -/
theorem callsOf_run_select (client : Client σ) (w : World σ) (c : Config) (limits : Limits) (r : ρ)
    (clause : String) (args : List Argument) :
    callsOf (World.run client (select c limits r clause args) w).2.trace =
      callsOf w.trace ++ match selectStatement c r clause args with
        | .ok st => [.query st]
        | .error _ => [] := by
  rw [select]
  cases selectStatement c r clause args with
  | error e => exact (List.append_nil _).symm
  | ok st =>
    rw [World.callsOf_run]
    -- the rows are read without further calls
    have hcalls : World.callsIn client (fetch st limits >>= fun rows => Script.ofExcept (scanAll r rows)) w
        = World.callsIn client (fetch st limits) w :=
      World.callsIn_bind_of_nil client (fun _ _ => rfl) _ w
    exact congrArg _ (hcalls.trans (World.callsIn_fetch client st limits w))

/-- A selection sends its statement exactly if it can be built. -/
theorem callsOf_run_select_eq_iff (client : Client σ) (w : World σ) (c : Config) (limits : Limits)
    (r : ρ) (clause : String) (args : List Argument) (st : Statement) :
    callsOf (World.run client (select c limits r clause args) w).2.trace =
        callsOf w.trace ++ [.query st] ↔
      selectStatement c r clause args = .ok st := by
  rw [callsOf_run_select, List.append_cancel_left_eq]
  cases selectStatement c r clause args with
  | error e => simp
  | ok st' => simp

/-- **A select rewrites the clause of its caller and nothing else**, unless its sigil is the comma
that stands between its own columns. -/
theorem select_sends_iff (client : Client σ) (w : World σ) (c : Config) (limits : Limits) (r : ρ)
    (clause : String) (args : List Argument) (accepted : c.validate = .ok ())
    (table_isName : IsName (Record.table r)) (row_ne_nil : Record.row r c.dialect ≠ [])
    (row_isName : ∀ column ∈ Record.row r c.dialect, IsName column.name)
    (supplied : ∀ name ∈ (compile c.sigil c.dialect.markers clause).1.params,
      ∃ a ∈ args, a.name = name) :
    ∃ values, bindArguments (compile c.sigil c.dialect.markers clause).1.params args = .ok values ∧
      (callsOf (World.run client (select c limits r clause args) w).2.trace = callsOf w.trace ++
          [.query ⟨"SELECT " ++ ",".intercalate ((Record.row r c.dialect).map (·.name)) ++
            " FROM " ++ Record.table r ++ (if clause.isEmpty then "" else
              " " ++ (compile c.sigil c.dialect.markers clause).1.sql), values⟩] ∧
        (∀ text, Statement.select (Record.table r) (Record.row r c.dialect) clause = .ok text →
          (compile c.sigil c.dialect.markers text).1.params =
            (compile c.sigil c.dialect.markers clause).1.params) ↔
        c.sigil ≠ ',' ∨ (Record.row r c.dialect).length = 1) := by
  obtain ⟨values, hvalues⟩ := exists_bindArguments_eq_ok supplied
  have usable := Config.isUsable_of_validate accepted
  refine ⟨values, hvalues, ?_⟩
  rw [callsOf_run_select_eq_iff, selectStatement_eq c r clause args table_isName.1 row_ne_nil,
    select_eq_ok clause table_isName.1 row_ne_nil]
  constructor
  · rintro ⟨hst, -⟩
    by_cases hcomma : c.sigil = ','
    · right
      rcases Nat.lt_or_ge (Record.row r c.dialect).length 2 with hone | htwo
      · have := List.length_pos_iff.mpr row_ne_nil
        omega
      · -- the comma behind the first column is not in the text that was sent
        have hsql := Statement.sql_of_named hst
        rw [hcomma] at hsql usable
        exact absurd hsql.symm (sql_ne_of_comma usable row_isName htwo)
    · exact Or.inl hcomma
  · intro h
    -- only a comma between columns could be a sigil, and there is none
    have hhead : c.sigil ∉ (selectHead (Record.table r) (Record.row r c.dialect)).toList := by
      intro hmem
      obtain ⟨hcomma, hlength⟩ := eq_comma_of_mem_selectHead usable table_isName row_isName hmem
      rcases h with h | h
      · exact h hcomma
      · omega
    have hcompile := compile_selectHead usable hhead c.dialect.markers clause
    constructor
    · rw [Statement.named_eq, hcompile, hvalues]
      rfl
    · rintro text ⟨⟩
      rw [hcompile]

/-- A table and columns whose names lack the sigil, and a clause with one parameter. -/
theorem select_sends_company :
    let w : World Replay := ⟨⟨[], [], 0, [], 0⟩, 0, []⟩
    let c : Config := ⟨.postgres, ':'⟩
    let r : Entry := ⟨"company",
      [⟨⟨.text, false⟩, .text "", some ⟨"code", fun _ => none⟩⟩,
        ⟨⟨.text, true⟩, .null, some ⟨"city", fun _ => none⟩⟩]⟩
    let clause := "WHERE code=:c OR city=:c"
    let args : List Argument := [⟨"c", .text "X1"⟩]
    c.validate = .ok () ∧ IsName (Record.table r) ∧ Record.row r c.dialect ≠ [] ∧
      (∀ column ∈ Record.row r c.dialect, IsName column.name) ∧
      (∀ name ∈ (compile c.sigil c.dialect.markers clause).1.params, ∃ a ∈ args, a.name = name) ∧
      ∃ values,
        bindArguments (compile c.sigil c.dialect.markers clause).1.params args = .ok values ∧
        (callsOf (World.run Replay.client (select c .none r clause args) w).2.trace =
            callsOf w.trace ++
              [.query ⟨"SELECT " ++ ",".intercalate ((Record.row r c.dialect).map (·.name)) ++
                " FROM " ++ Record.table r ++ (if clause.isEmpty then "" else
                  " " ++ (compile c.sigil c.dialect.markers clause).1.sql), values⟩] ∧
          (∀ text, Statement.select (Record.table r) (Record.row r c.dialect) clause = .ok text →
            (compile c.sigil c.dialect.markers text).1.params =
              (compile c.sigil c.dialect.markers clause).1.params) ↔
          c.sigil ≠ ',' ∨ (Record.row r c.dialect).length = 1) := by
  intro w c r clause args
  have accepted : c.validate = .ok () := rfl
  have table_isName : IsName (Record.table r) := by decide
  have row_ne_nil : Record.row r c.dialect ≠ [] := by decide
  have row_isName : ∀ column ∈ Record.row r c.dialect, IsName column.name := by decide
  have supplied : ∀ name ∈ (compile c.sigil c.dialect.markers clause).1.params,
      ∃ a ∈ args, a.name = name := by decide
  exact ⟨accepted, table_isName, row_ne_nil, row_isName, supplied,
    select_sends_iff Replay.client w c .none r clause args accepted table_isName row_ne_nil
      row_isName supplied⟩

/-- With the comma as sigil, the second column is taken for a parameter of the caller. -/
theorem select_comma_unknownParameter :
    let c : Config := ⟨.sqlite, ','⟩
    let r : Entry := ⟨"t",
      [⟨⟨.int .i64, false⟩, .null, some ⟨"a", fun _ => none⟩⟩,
        ⟨⟨.int .i64, false⟩, .null, some ⟨"b", fun _ => none⟩⟩]⟩
    c.validate = .ok () ∧
      Statement.select (Record.table r) (Record.row r c.dialect) "" = .ok "SELECT a,b FROM t" ∧
      selectStatement c r "" [] = .error (.unknownParameter "b") :=
  ⟨rfl, rfl, rfl⟩

end Operation

end RecordSql
