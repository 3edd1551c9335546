import RecordSql.Proofs.Embedded.Selection
import RecordSql.Proofs.Embedded.Storing

/-!
# Finding the row of a table

A query finds the only row of a table of the databases in memory if its conditions are true of the row
(`run_query`), and answers with the cells that it selects (`run_selection`).  What is true of a row for
their storage is true for their expressions (`trueOf_of_isTrueOf`).
-/

namespace RecordSql

open Embedded Embedded.Phrase

/-! ### Truth -/

namespace Embedded

theorem Cell.truth_ofTruth (t : Option Bool) : (Cell.ofTruth t).truth = t := by
  rcases t with _ | _ | _ <;> decide

/-- Null equals null only. -/
theorem Operand.compareNulls_null (c : Cell) (a : Option Affinity) :
    Operand.compareNulls .same ⟨c, a⟩ ⟨.null, none⟩ = c.isNull := by
  have hcell : (Operand.mk c a).comparand ⟨.null, none⟩ = c := rfl
  have hnull : (Operand.mk .null none).comparand ⟨c, a⟩ = .null := by
    rw [comparand]
    split
    · rfl
    · split <;> rfl
  rw [compareNulls, order, hcell, hnull]
  cases c <;> rfl

/-- An expression is true of a row of a table. -/
def TrueOf (t : Table) (values cells : List Cell) (e : Expr String) : Prop :=
  ∃ e', t.resolve e = .ok e' ∧ e'.holds values cells = true

section TrueOf

variable {t : Table} {values cells : List Cell}

/-- A conjunction is true if both of its conditions are. -/
theorem TrueOf.and {a b : Expr String} (ha : TrueOf t values cells a) (hb : TrueOf t values cells b) :
    TrueOf t values cells (.binary .and a b) := by
  obtain ⟨a', hresolve, ha⟩ := ha
  obtain ⟨b', hresolve', hb⟩ := hb
  rw [Expr.holds, beq_iff_eq] at ha hb
  refine ⟨.binary .and a' b', ?_, ?_⟩
  · show ((t.resolve a).bind fun a => (t.resolve b).bind fun b =>
      .ok (Expr.binary BinaryOp.and a b)) = _
    rw [hresolve, hresolve']
    rfl
  · show ((Cell.ofTruth (bothTrue (a'.eval values cells).truth (b'.eval values cells).truth)).truth ==
      some true) = true
    rw [Cell.truth_ofTruth, ha, hb]
    rfl

/-- The conditions of a query are true together if each of them is. -/
theorem trueOf_conjunction {e : Expr String} {conditions : List Condition}
    (he : TrueOf t values cells e)
    (h : ∀ c ∈ conditions, TrueOf t values cells c.expr) :
    TrueOf t values cells (conjunction e conditions) := by
  induction conditions generalizing e with
  | nil => exact he
  | cons c conditions ih =>
    obtain ⟨hc, hconditions⟩ := List.forall_mem_cons.mp h
    exact ih (he.and hc) hconditions

/-- A query without conditions asks for nothing that could be false. -/
theorem trueOf_conjunction? {conditions : List Condition}
    (h : ∀ c ∈ conditions, TrueOf t values cells c.expr) :
    ∀ e ∈ conjunction? conditions, TrueOf t values cells e := by
  cases conditions with
  | nil => exact fun _ he => by cases he
  | cons c conditions =>
    obtain ⟨hc, hconditions⟩ := List.forall_mem_cons.mp h
    rintro _ ⟨⟩
    exact trueOf_conjunction hc hconditions

variable {s : String} {p : Place} {c : Cell}

/-- `IS NULL` is true of a row that holds null under the name. -/
theorem trueOf_isNull (hplace : t.place s = .ok p) (hcell : cells[p.index]? = some .null) :
    TrueOf t values cells (Condition.isNull s).expr := by
  refine ⟨.binary .same (.column p) (.literal .null), ?_, ?_⟩
  · show ((Expr.column <$> t.place s).bind fun a => _) = _
    rw [hplace]
    rfl
  · show ((Cell.ofTruth (some (Operand.compareNulls .same ⟨(cells[p.index]?).getD .null,
      some p.affinity⟩ ⟨.null, none⟩))).truth == some true) = true
    rw [Cell.truth_ofTruth, Operand.compareNulls_null, hcell]
    rfl

/-- An equality is true of a row if the cell under the name equals the parameter by the affinity of
its column. -/
theorem trueOf_equals {k : Nat} {value : Cell} (hplace : t.place s = .ok p)
    (hcell : cells[p.index]? = some c) (hvalue : values[k - 1]? = some value)
    (hequal : Operand.compare .equal ⟨c, some p.affinity⟩ ⟨value, none⟩ = some true) :
    TrueOf t values cells (Condition.equals s k).expr := by
  refine ⟨.binary .equal (.column p) (.marker k), ?_, ?_⟩
  · show ((Expr.column <$> t.place s).bind fun a => _) = _
    rw [hplace]
    rfl
  · show ((Cell.ofTruth (Operand.compare .equal ⟨(cells[p.index]?).getD .null, some p.affinity⟩
      ⟨(values[k - 1]?).getD .null, none⟩)).truth == some true) = true
    rw [Cell.truth_ofTruth, hcell, hvalue, Option.getD_some, Option.getD_some, hequal]
    rfl

end TrueOf

/-! ### Queries of a table with one row -/

/-- A query whose condition is true of the only row finds it. -/
theorem Database.run_query {db : Database} {name : String} {t : Table} {values cells : List Cell}
    {projection : Projection} {names : List String} {items : List (Expr Place)}
    {condition : Option (Expr String)} {order : List OrderTerm} {terms : List (Expr Place × Bool)}
    (htable : db.table name = .ok t) (hrows : t.rows.map (·.cells) = [cells])
    (hproject : t.project projection = .ok (names, .cells items))
    (hcondition : ∀ e ∈ condition, TrueOf t values cells e)
    (horder : (order.mapM fun o => do return (← t.resolve o.value, o.descending)) = .ok terms) :
    db.run values (.query ⟨projection, some name, condition, order⟩) =
      ⟨.ok ⟨names, [items.map (·.eval values cells)], none⟩, db, some 0⟩ := by
  obtain ⟨condition', hresolve, hholds⟩ : ∃ condition', t.resolve? condition = .ok condition' ∧
      satisfies values cells condition' = true := by
    cases condition with
    | none => exact ⟨none, rfl, rfl⟩
    | some e =>
      obtain ⟨e', he, htrue⟩ := hcondition e rfl
      exact ⟨some e', by rw [Table.resolve?, he]; rfl, htrue⟩
  -- every part of the query is resolved before the first row is looked at
  have hplan : t.plan ⟨projection, some name, condition, order⟩ =
      .ok ⟨names, .cells items, condition', terms⟩ := by
    rw [Table.plan, hproject]
    show ((t.resolve? condition).bind fun condition =>
      Except.bind (order.mapM fun o => do return (← t.resolve o.value, o.descending)) fun order =>
        .ok (Plan.mk names (.cells items) condition order)) = _
    rw [hresolve, Except.bind, horder, Except.bind]
  -- the only row stays, so the order has nothing to do
  have hrun : (Plan.mk names (.cells items) condition' terms).run values [cells] =
      [items.map (·.eval values cells)] := by
    have hkept : [cells].filter (fun row => satisfies values row condition') = [cells] :=
      List.filter_cons_of_pos hholds
    show ((([cells].filter fun row => satisfies values row condition').mergeSort _).map _) = _
    rw [hkept, List.mergeSort_singleton, List.map_singleton]
  have hanswer : db.answer values ⟨projection, some name, condition, order⟩ =
      .ok (names, [items.map (·.eval values cells)]) := by
    rw [Database.answer, Database.source, htable]
    show ((t.plan _).bind fun plan => Except.ok (plan.names, plan.run values (t.rows.map (·.cells)))) = _
    rw [hplan, Except.bind, hrows, hrun]
  rw [Database.run, hanswer]
  rfl

end Embedded

/-! ### Tables with plain columns -/

section Rows

variable {name : String} {headings : List Heading} {rows : List NumberedRow}

/-- An item goes by the name of its column. -/
theorem itemName_tableOf (distinct : DistinctNames headings) {i : Nat} {h : Heading}
    (hi : headings[i]? = some h) {item : Item} (hvalue : item.value = .column h.name)
    (hlabel : item.label = none) : (tableOf name headings rows).itemName item = h.name := by
  obtain ⟨hlt, hh, hfront⟩ := name_ne_of_lt distinct hi
  have hfind : (headings.map Heading.rule).find? (fun r => sameName r.name h.name) = some h.rule := by
    rw [List.find?_eq_some_iff_getElem]
    refine ⟨sameName_self h.name, i, by rwa [List.length_map], ?_, fun j hj => ?_⟩
    · rw [List.getElem_map, hh]
    · rw [List.getElem_map, Bool.not_eq_true']
      exact hfront j hj
  rw [Table.itemName, hvalue, hlabel]
  show (((headings.map Heading.rule).find? fun r => sameName r.name h.name).map (·.name)).getD _ = _
  rw [hfind]
  rfl

/-- Items that are names of columns are resolved to the places of the columns, and go by the names. -/
theorem resolve_items_tableOf (distinct : DistinctNames headings) {ps : List (Heading × Nat)}
    (hps : ∀ p ∈ ps, headings[p.2]? = some p.1) {items : List Item}
    (hitems : List.Forall₂ (fun p i => i.value = .column p.1.name ∧ i.label = none) ps items) :
    (items.mapM fun i => (tableOf name headings rows).resolve i.value) =
      .ok (ps.map fun p => .column ⟨p.2, p.1.type.affinity⟩) ∧
      items.map (tableOf name headings rows).itemName = ps.map (·.1.name) := by
  induction hitems with
  | nil => exact ⟨rfl, rfl⟩
  -- the name of an item is found at the place of its heading, since no other has that name
  | @cons p i ps items hi _ ih =>
    obtain ⟨hp, hps⟩ := List.forall_mem_cons.mp hps
    obtain ⟨hvalues, hnames⟩ := ih hps
    have hplace : (tableOf name headings rows).resolve i.value =
        .ok (.column ⟨p.2, p.1.type.affinity⟩) := by
      rw [hi.1]
      show Expr.column <$> (tableOf name headings rows).place p.1.name = _
      rw [place_tableOf distinct hp]
      rfl
    have hname : (tableOf name headings rows).itemName i = p.1.name :=
      itemName_tableOf distinct hp hi.1 hi.2
    refine ⟨?_, ?_⟩
    · rw [List.mapM_cons, hplace, hvalues]
      rfl
    · rw [List.map_cons, List.map_cons, hname, hnames]

/-- The columns of a query are those of the table. -/
theorem project_tableOf (distinct : DistinctNames headings) {ps : List (Heading × Nat)}
    (few : ps.length ≤ maxColumns) (hps : ∀ p ∈ ps, headings[p.2]? = some p.1)
    {projection : Projection} (h : Selects (ps.map (·.1.name)) projection) :
    (tableOf name headings rows).project projection =
      .ok (ps.map (·.1.name), .cells (ps.map fun p => .column ⟨p.2, p.1.type.affinity⟩)) := by
  obtain ⟨items, rfl, hitems⟩ := h
  rw [List.forall₂_map_left_iff] at hitems
  obtain ⟨hresolve, hnames⟩ :
      (items.mapM fun i => (tableOf name headings rows).resolve i.value) = .ok _ ∧
        items.map (tableOf name headings rows).itemName = _ :=
    resolve_items_tableOf distinct hps hitems
  have hroom : ¬ maxColumns < items.length := hitems.length_eq ▸ Nat.not_lt.mpr few
  rw [Table.project, if_neg hroom, hresolve, hnames]
  rfl

variable {row : List HeadedCell}

/-- A cell of a row stands at some place, under its heading. -/
theorem exists_place {x : HeadedCell} (hx : x ∈ row) :
    ∃ i : Nat, (row.map (·.toHeading))[i]? = some x.toHeading ∧
      (row.map (·.cell))[i]? = some x.cell := by
  obtain ⟨i, hi⟩ := List.mem_iff_getElem?.mp hx
  refine ⟨i, ?_, ?_⟩
  · rw [List.getElem?_map, hi]
    rfl
  · rw [List.getElem?_map, hi]
    rfl

/-- So do the cells that are picked from it. -/
theorem exists_places {picked : List HeadedCell} (picks : ∀ x ∈ picked, x ∈ row) :
    ∃ ps : List (Heading × Nat), ps.map Prod.fst = picked.map (·.toHeading) ∧
      (∀ p ∈ ps, (row.map (·.toHeading))[p.2]? = some p.1) ∧
      ps.map (fun p => ((row.map (·.cell))[p.2]?).getD .null) = picked.map (·.cell) := by
  induction picked with
  | nil => exact ⟨[], rfl, fun _ h => absurd h List.not_mem_nil, rfl⟩
  | cons x picked ih =>
    obtain ⟨hx, picks⟩ := List.forall_mem_cons.mp picks
    obtain ⟨i, hheading, hcell⟩ := exists_place hx
    obtain ⟨ps, hnames, hplaces, hcells⟩ := ih picks
    refine ⟨(x.toHeading, i) :: ps, congrArg (x.toHeading :: ·) hnames,
      List.forall_mem_cons.mpr ⟨hheading, hplaces⟩, ?_⟩
    rw [List.map_cons, hcells, hcell]
    rfl

/-- A condition that is true of a row is true as an expression. -/
theorem trueOf_of_isTrueOf (distinct : DistinctNames (row.map (·.toHeading))) {params : List Cell}
    {c : Condition} (h : c.IsTrueOf storage row params) :
    TrueOf (tableOf name (row.map (·.toHeading)) rows) (params.map Cell.settled) (row.map (·.cell))
      c.expr := by
  cases c with
  | isNull s =>
    obtain ⟨x, hx, rfl, hnull⟩ := h
    obtain ⟨i, hheading, hcell⟩ := exists_place hx
    exact trueOf_isNull (place_tableOf distinct hheading) (hcell.trans (congrArg some hnull))
  | equals s k =>
    obtain ⟨x, hx, rfl, p, hp, hequal⟩ := h
    obtain ⟨i, hheading, hcell⟩ := exists_place hx
    refine trueOf_equals (place_tableOf distinct hheading) hcell ?_ hequal
    rw [List.getElem?_map, hp]
    rfl

/-- An order by a column of the table is one by its place. -/
theorem exists_orderTerms {t : Table} {descending : Option String}
    (h : ∀ s ∈ descending, ∃ p, t.place s = .ok p) :
    ∃ terms, ((orderTerms descending).mapM fun o => do
      return (← t.resolve o.value, o.descending)) = .ok terms := by
  cases descending with
  | none => exact ⟨[], rfl⟩
  | some s =>
    obtain ⟨p, hp⟩ := h s rfl
    refine ⟨[(.column p, true)], ?_⟩
    rw [orderTerms, Option.toList_some, List.map_singleton, List.mapM_cons]
    show ((Expr.column <$> t.place s).bind _).bind _ = _
    rw [hp]
    rfl

/-- A selection whose conditions are true of the only row answers with its cells. -/
theorem run_selection {db : Database} {number : Ranged .i64} {q : Selection} {picked : List HeadedCell}
    {params : List Cell} {projection : Projection}
    (htable : db.table name = .ok (tableOf name (row.map (·.toHeading)) [⟨number, row.map (·.cell)⟩]))
    (few : row.length ≤ maxColumns) (distinct : DistinctNames (row.map (·.toHeading)))
    (finds : q.Finds storage row picked params) (hprojection : Selects q.names projection) :
    db.run (params.map Cell.settled)
        (.query ⟨projection, some name, conjunction? q.conditions, orderTerms q.descending⟩) =
      ⟨.ok ⟨q.names, [picked.map (·.cell)], none⟩, db, some 0⟩ := by
  obtain ⟨ps, hheadings, hplaces, hcells⟩ := exists_places finds.picks
  have hnames : ps.map (·.1.name) = q.names := by
    have hmapped := congrArg (List.map Heading.name) hheadings
    rw [List.map_map, List.map_map] at hmapped
    exact hmapped.trans finds.names.symm
  have hvalues : (ps.map fun p => Expr.column ⟨p.2, p.1.type.affinity⟩).map
      (·.eval (params.map Cell.settled) (row.map (·.cell))) = picked.map (·.cell) := by
    rw [← hcells, List.map_map]
    rfl
  obtain ⟨terms, hterms⟩ := exists_orderTerms
    (t := tableOf name (row.map (·.toHeading)) [⟨number, row.map (·.cell)⟩]) fun s hs => by
      obtain ⟨x, hx, rfl⟩ := finds.orders s hs
      obtain ⟨i, hi, -⟩ := exists_place hx
      exact ⟨_, place_tableOf distinct hi⟩
  have hlength : ps.length ≤ maxColumns := by
    have hpicked := congrArg List.length hheadings
    rw [List.length_map, List.length_map] at hpicked
    rw [hpicked]
    exact Nat.le_trans finds.few few
  rw [Database.run_query htable rfl (project_tableOf distinct hlength hplaces (hnames ▸ hprojection))
    (trueOf_conjunction? fun c hc => trueOf_of_isTrueOf distinct (finds.holds c hc)) hterms, hvalues,
    hnames]

end Rows

end RecordSql
