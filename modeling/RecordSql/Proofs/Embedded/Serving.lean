import Mathlib.Data.List.TakeWhile
import RecordSql.Embedded.Connection
import RecordSql.Proofs.Embedded.Extent
import RecordSql.Proofs.Embedded.Finding
import RecordSql.Proofs.Text.Numeral
import RecordSql.Proofs.Text.Utf8

/-!
# The library of the databases in memory

The databases in memory store cells as it is documented (`isLawful_storage`), and their library serves
the statements of a record (`serves_library`), so what is shown of any such library is true of them.  They
refuse a lookup with too many conditions, but nothing of a row that has fewer cells than that
(`takes_library`).
-/

namespace RecordSql.Embedded

/-! ### Numerals -/

/-- Digits are read as a number without a point and an exponent. -/
theorem takeUnsigned_toDigits (n : Nat) :
    Number.takeUnsigned (Nat.toDigits 10 n) = some (⟨n, 0⟩, true, []) := by
  have hdigits : ∀ c ∈ Nat.toDigits 10 n, c.isDigit = true := fun c hc =>
    Text.isDigit_of_mem_toDigits hc
  have htake : (Nat.toDigits 10 n).takeWhile Char.isDigit = Nat.toDigits 10 n :=
    List.takeWhile_eq_self_iff.mpr hdigits
  have hdrop : (Nat.toDigits 10 n).dropWhile Char.isDigit = [] :=
    List.dropWhile_eq_nil_iff.mpr hdigits
  have hread : Text.readNat? (Nat.toDigits 10 n ++ []) = some n := by
    rw [List.append_nil, Text.readNat?_toDigits]
  simp only [Number.takeUnsigned, hdrop, htake, Number.takeFraction, Option.getD_none, hread]
  rfl

theorem isSpace_of_isDigit {c : Char} (h : c.isDigit = true) : isSpace c = false := by
  rw [Char.isDigit, Bool.and_eq_true, decide_eq_true_eq] at h
  have hspace : (c == ' ') = false := by
    rw [beq_eq_false_iff_ne]
    rintro rfl
    exact absurd h.1 (by decide)
  have hcontrol : decide (c ≤ '\r') = false :=
    decide_eq_false fun hle => absurd (UInt32.le_trans h.1 hle) (by decide)
  rw [isSpace, hspace, hcontrol, Bool.and_false, Bool.or_false]

/-- A digit is no sign. -/
theorem takeSign_of_isDigit {c : Char} (h : c.isDigit = true) (cs : List Char) :
    Number.takeSign (c :: cs) = (false, c :: cs) := by
  unfold Number.takeSign
  split
  · rename_i heq
    cases heq
    exact absurd h (by decide)
  · rename_i heq
    cases heq
    exact absurd h (by decide)
  · rfl

/-- Nothing but a sign stands in front of the digits of a numeral. -/
theorem takeNumeral_numeral (n : Int) :
    takeNumeral (Text.numeral n) = some (⟨decide (n < 0), ⟨n.natAbs, 0⟩, true⟩, []) := by
  cases n with
  -- the first digit is neither a blank nor a sign
  | ofNat n =>
    obtain ⟨c, cs, hdigits⟩ := List.exists_cons_of_ne_nil (Nat.toDigits_ne_nil (n := n) (b := 10))
    have hc : c.isDigit = true := Text.isDigit_of_mem_toDigits (hdigits ▸ List.mem_cons_self)
    rw [takeNumeral, Text.numeral, hdigits,
      List.dropWhile_cons_of_neg (by rw [isSpace_of_isDigit hc]; decide), takeSign_of_isDigit hc]
    show (Number.takeUnsigned (c :: cs)).map _ = _
    rw [← hdigits, takeUnsigned_toDigits]
    rfl
  | negSucc n =>
    have hspace : isSpace '-' = false := by decide
    rw [takeNumeral, Text.numeral, List.dropWhile_cons_of_neg (by rw [hspace]; decide)]
    show (Number.takeUnsigned (Nat.toDigits 10 (n + 1))).map _ = _
    rw [takeUnsigned_toDigits, decide_eq_true (Int.negSucc_lt_zero n)]
    rfl

/-- The numeral of an integer is read as the integer. -/
theorem toNumber_numeral (n : Ranged .i64) :
    (Cell.ofChars (Text.numeral n.val)).toNumber = .integer n := by
  have hchars : (Text.Utf8.decodeLenient (Text.Utf8.encode (String.ofList (Text.numeral n.val)))).toList =
      Text.numeral n.val := by
    rw [Text.Utf8.decodeLenient_encode, String.toList_ofList]
  have hread : readNumeral? (Text.numeral n.val) =
      some ⟨decide (n.val < 0), ⟨n.val.natAbs, 0⟩, true⟩ := by
    rw [readNumeral?, takeNumeral_numeral]
    rfl
  have hvalue : (if decide (n.val < 0) = true then -(n.val.natAbs : Int) else n.val.natAbs) = n.val := by
    simp only [decide_eq_true_eq]
    split <;> omega
  rw [Cell.ofChars, Cell.toNumber, hchars, hread]
  show (Numeral.mk (decide (n.val < 0)) ⟨n.val.natAbs, 0⟩ true).toCell = _
  have hinteger : (Numeral.mk (decide (n.val < 0)) ⟨n.val.natAbs, 0⟩ true).integer? = some n := by
    show Ranged.ofInt? .i64 (if decide (n.val < 0) = true then -(n.val.natAbs : Int)
      else n.val.natAbs) = _
    rw [hvalue, n.ofInt?_val]
  rw [Numeral.toCell, hinteger]

/-! ### Storage -/

/-- A column of integer affinity is compared with an integer as it is. -/
theorem compare_integer (n : Ranged .i64) :
    Operand.compare .equal ⟨.integer n, some .integer⟩ ⟨.integer n, none⟩ = some true := by
  show some (BinaryOp.equal.accepts (compare n.val n.val)) = some true
  rw [Int.compare_eq_eq.mpr rfl]
  rfl

/-- The databases in memory store cells as it is documented. -/
theorem isLawful_storage : storage.IsLawful where
  integer _ := rfl
  integers_null := rfl
  numeral _ := rfl
  decimal {x} number := by
    have hsettled : (Cell.real x).settled = .real x := if_neg (Bool.eq_false_iff.mp number)
    refine ⟨realText x, ?_⟩
    show (Cell.real x).settled.toText = _
    rw [hsettled]
    rfl
  texts_null := rfl
  text _ := rfl
  blob _ := rfl
  equal_integer := compare_integer
  equal_kept {c} value number := by
    have hsettled : c.settled = c := by
      cases c with
      | real x => exact if_neg (Bool.eq_false_iff.mp (number x rfl))
      | _ => rfl
    show Operand.compare .equal ⟨c.settled.toText, some .text⟩ ⟨c.settled, none⟩ = some true
    rw [hsettled, Operand.compare]
    -- the parameter is compared as the text that has been kept
    show (if (c.toText.isNull || c.isNull) = true then none
      else some (BinaryOp.equal.accepts (c.toText.order c.toText))) = some true
    rw [Cell.isNull_toText, value, Cell.order_toText_self value]
    rfl
  equal_key := compare_integer
  equal_key_numeral n := by
    show some (BinaryOp.equal.accepts
      ((Cell.integer n).order (Cell.ofChars (Text.numeral n.val)).toNumber)) = some true
    rw [toNumber_numeral]
    exact compare_integer n

/-! ### Tables -/

/-- The tables of a database in memory. -/
def tablesInMemory : Tables Database where
  IsEmpty db table headings :=
    headings.length ≤ maxColumns ∧ DistinctNames headings ∧
      db.table table = .ok (tableOf table headings [])
  HasRow db table row :=
    row.length ≤ maxColumns ∧ DistinctNames (row.map (·.toHeading)) ∧
      ∃ number, db.table table =
        .ok (tableOf table (row.map (·.toHeading)) [⟨number, row.map (·.cell)⟩])

namespace Database

variable {db after : Database} {sql : String} {cells : List (Option Cell)}
  {result : Except Issue Reply} {answered : Reply → Database → Prop}

/-- The extent of a command is checked before its cells are bound. -/
theorem prepare_of_read {c : Command} {needed : Nat} (hread : readCommand sql = .ok (c, needed)) :
    prepare sql cells = (c.checkExtent needed).bind fun _ =>
      (bindCells needed cells).bind fun values => .ok (c, values) := by
  rw [prepare, hread]
  rfl

/-- A text that is read as a command that is not too large, with as many markers as there are cells, runs
that command. -/
theorem runText_eq {c : Command} {values : List Cell}
    (hread : readCommand sql = .ok (c, values.length)) (small : c.checkExtent values.length = .ok ()) :
    db.runText sql (values.map some) = db.run (values.map Cell.settled) c := by
  rw [runText, prepare_of_read hread, small, Except.bind, bindCells_eq_ok]
  rfl

/-- A command that is too large is refused. -/
theorem runText_of_large {c : Command} {needed : Nat} (hread : readCommand sql = .ok (c, needed))
    (large : c.checkExtent needed ≠ .ok ()) :
    ∃ issue, db.runText sql cells = ⟨.error issue, db, some 0⟩ := by
  rw [runText, prepare_of_read hread]
  cases hcheck : c.checkExtent needed with
  | ok _ => exact absurd hcheck large
  | error issue => exact ⟨issue, rfl⟩

theorem library_run (h : db.runText sql cells = ⟨result, after, some 0⟩) :
    library.run sql cells db = ⟨result.mapError Issue.message, after, some 0⟩ := by
  show Ran.mk (((db.runText sql cells).result).mapError Issue.message) _ _ = _
  rw [h]
  rfl

/-- A text that makes no recursion ends at once. -/
theorem ends_library (h : db.runText sql cells = ⟨result, after, some 0⟩)
    (hanswered : ∀ reply, result = .ok reply → answered reply after) :
    (library.run sql cells db).Ends answered := by
  rw [library_run h]
  refine ⟨Option.some_ne_none 0, fun reply hreply => ?_⟩
  cases result with
  | error issue => cases hreply
  | ok r =>
    obtain rfl := Except.ok.inj hreply
    exact hanswered r rfl

/-- A text with a value that has no cell is refused, if it is a statement at all. -/
theorem runText_of_mem_none (h : none ∈ cells) :
    ∃ issue, db.runText sql cells = ⟨.error issue, db, some 0⟩ := by
  cases hread : readCommand sql with
  | error issue =>
    rw [runText, prepare, hread]
    exact ⟨issue, rfl⟩
  | ok p =>
    rw [runText, prepare_of_read hread, bindCells_eq_error h]
    cases p.1.checkExtent p.2 with
    | error issue => exact ⟨issue, rfl⟩
    | ok _ => exact ⟨_, rfl⟩

/-- The text that creates a table runs the command to create it. -/
theorem runText_createText {table : String} {headings : List Heading}
    (plain : IsPlainTable table headings) :
    db.runText (createText table headings) [] = db.run [] (createCommand table headings) := by
  have hread : readCommand (createText table headings) =
      .ok (createCommand table headings, ([] : List Cell).length) :=
    readCommand_createText plain.table plain.names plain.nonempty
  exact runText_eq hread (checkExtent_createCommand table headings)

/-- The first row comes into its table. -/
theorem runText_insertText {table : String} {row : List HeadedCell}
    (plain : IsPlainTable table (row.map (·.toHeading)))
    (hempty : tablesInMemory.IsEmpty db table (row.map (·.toHeading))) :
    db.runText (insertText table ((HeadedCell.written row).map (·.name)))
        ((HeadedCell.written row).map fun x => some x.cell) =
      ⟨.ok ⟨[], [], some firstNumber⟩,
        db.withTable (tableOf table (row.map (·.toHeading)) [firstRow row]) 1, some 0⟩ := by
  have hnames : ∀ s ∈ (HeadedCell.written row).map (·.name), IsPlainName s := by
    intro s hs
    obtain ⟨x, hx, rfl⟩ := List.mem_map.mp hs
    exact plain.names x.toHeading (List.mem_map_of_mem (List.mem_filter.mp hx).1)
  have hread := readCommand_insertText plain.table hnames
  have hcells : (HeadedCell.written row).map (fun x => some x.cell) =
      ((HeadedCell.written row).map (·.cell)).map some := List.map_map.symm
  have hlength : ((HeadedCell.written row).map (·.name)).length =
      ((HeadedCell.written row).map (·.cell)).length := by simp
  have hvalues : ((HeadedCell.written row).map (·.cell)).map Cell.settled =
      (HeadedCell.written row).map (·.cell.settled) := List.map_map
  have hsmall : (insertCommand table ((HeadedCell.written row).map (·.name))).checkExtent
      ((HeadedCell.written row).map (·.name)).length = .ok () := by
    refine checkExtent_insertCommand ?_
    have hfew := hempty.1
    rw [List.length_map] at hfew ⊢
    exact Nat.le_trans (List.length_filter_le _ _) hfew
  -- there are as many markers as cells, and cells are settled as they are bound
  rw [hlength] at hread hsmall
  rw [hcells, runText_eq hread hsmall, hvalues]
  exact run_insertCommand hempty.2.2 hempty.2.1 (List.pairwise_map.mp plain.one)

section Selection

variable {q : Selection} {row picked : List HeadedCell} {params : List Cell}

/-- A query whose conditions are true of the only row finds it if they are not too many. -/
theorem runText_selection (hrow : tablesInMemory.HasRow db q.table row)
    (finds : q.Finds storage row picked params) (few : q.conditions.length < maxHeight) :
    db.runText q.text (params.map some) =
      ⟨.ok ⟨q.names, [picked.map (·.cell)], none⟩, db, some 0⟩ := by
  obtain ⟨hcolumns, distinct, number, htable⟩ := hrow
  obtain ⟨projection, hprojection, hread⟩ := Selection.readCommand_selection finds.plain
  have hsmall := (checkExtent_selection_iff hprojection).mpr few
  rw [← finds.count] at hread hsmall
  rw [runText_eq hread hsmall]
  exact run_selection htable hcolumns distinct finds hprojection

/-- A query with too many conditions is refused. -/
theorem runText_selection_of_many (plain : q.IsPlain) (many : maxHeight ≤ q.conditions.length) :
    ∃ issue, db.runText q.text cells = ⟨.error issue, db, some 0⟩ := by
  obtain ⟨projection, hprojection, hread⟩ := Selection.readCommand_selection plain
  refine runText_of_large hread fun hsmall => ?_
  exact Nat.not_lt.mpr many ((checkExtent_selection_iff hprojection).mp hsmall)

end Selection

end Database

/-- **The library of the databases in memory serves the statements of a record.** -/
theorem serves_library : Database.library.Serves storage tablesInMemory where
  refuses h := by
    obtain ⟨issue, hrun⟩ := Database.runText_of_mem_none h
    exact Database.ends_library hrun fun _ hreply => by cases hreply
  creates {db table headings} plain := by
    obtain ⟨result, after, hrun, hcreated⟩ := Database.run_createCommand db table headings []
    exact Database.ends_library ((Database.runText_createText plain).trans hrun) hcreated
  inserts {db table row} plain hempty := by
    refine Database.ends_library (Database.runText_insertText plain hempty) fun reply hreply => ?_
    obtain rfl := Except.ok.inj hreply
    obtain ⟨few, distinct, htable⟩ := hempty
    have hheadings : (row.map (HeadedCell.stored storage)).map (·.toHeading) = row.map (·.toHeading) :=
      List.map_map
    have hstored : (firstRow row).cells = (row.map (HeadedCell.stored storage)).map (·.cell) :=
      List.map_map.symm
    rw [List.length_map] at few
    refine ⟨rfl, rfl, rfl, (List.length_map _).trans_le few, hheadings ▸ distinct, firstNumber, ?_⟩
    rw [hheadings, ← hstored]
    -- the table with the row takes the place of the empty one
    exact Database.table_withTable (u := tableOf _ _ [_]) htable rfl 1
  selects {db q row picked params} hrow finds := by
    rcases Nat.lt_or_ge q.conditions.length maxHeight with few | many
    · refine Database.ends_library (Database.runText_selection hrow finds few) fun reply hreply => ?_
      obtain rfl := Except.ok.inj hreply
      exact ⟨rfl, rfl, hrow⟩
    · obtain ⟨issue, hrun⟩ := Database.runText_selection_of_many finds.plain many
      exact Database.ends_library hrun fun _ hreply => by cases hreply
  answers hrow finds hone := by
    rw [Database.library_run (Database.runText_selection hrow finds (hone ▸ by decide))]
    exact ⟨_, rfl⟩

/-- The databases in memory take rows that leave room for a condition on each of their cells. -/
theorem takes_library {table : String} {row : List HeadedCell} (few : row.length < maxHeight) :
    Database.library.Takes storage tablesInMemory table row where
  inserts plain hempty := by
    rw [Database.library_run (Database.runText_insertText plain hempty)]
    exact ⟨_, rfl⟩
  selects htable hrow finds hconditions := by
    subst htable
    rw [Database.library_run (Database.runText_selection hrow finds
      (Nat.lt_of_le_of_lt hconditions few))]
    exact ⟨_, rfl⟩

end RecordSql.Embedded
