import Mathlib.Tactic.ByContra
import Mathlib.Tactic.Push
import RecordSql.Proofs.Embedded.Engine
import RecordSql.Proofs.Insert

/-!
# Rows that their own lookup misses

A lookup compares what an insert has written, so it should find the row of the insert.  In a database that
binds what is not a number as null, and in which nothing equals null, it does unless a value is not a
number (`insert_notFound_iff`).  With such a value the lookup finds no row at all, and the insert reports
that its row is not there; without one it never does.

The database is any engine with these habits (`Engine.BindsNaNAsNull`, `Engine.NullEqualsNothing`), and one
whose columns recognize all other values.
-/

namespace RecordSql

/-! ### The faults of a key -/

namespace Key

/-- A number that is no key is refused, but not as missing. -/
theorem isNotFound_of_coerce {key : Column} {n : Ranged .i64} {f : Fault}
    (h : coerce key n = .error f) : f.isNotFound = false := by
  cases hkind : key.value.kind with
  | null =>
    rw [coerce, hkind] at h
    cases h
  | int t =>
    rw [coerce, hkind] at h
    cases hn : Kind.narrow n (.int t) with
    | some v =>
      rw [hn] at h
      cases h
    | none =>
      rw [hn] at h
      cases h
      rfl
  | _ =>
    rw [coerce, hkind] at h
    cases h
    rfl

/-- A fetched value is taken as it is, as an integer, or not at all. -/
theorem coerceFetched_cases (key : Column) (v : Value) :
    coerceFetched key v = .ok v ∨ (∃ n, coerceFetched key v = coerce key n) ∨
      ∃ reason, coerceFetched key v = .error (.decode key.name reason) := by
  cases hword : v.word? with
  | some n =>
    obtain ⟨m, hm, -⟩ := Option.bind_eq_some_iff.mp hword
    cases v with
    | int t i =>
      right; left
      exact ⟨n, by unfold coerceFetched; dsimp only; rw [hword]⟩
    | _ => cases hm
  | none =>
    -- what is no word is refused for its kind, or is a text or bytes and kept
    unfold coerceFetched
    dsimp only
    split
    · exact Or.inr (Or.inr ⟨_, rfl⟩)
    · split
      · exact Or.inr (Or.inr ⟨_, rfl⟩)
      · exact Or.inl rfl
    · split
      · exact Or.inr (Or.inr ⟨_, rfl⟩)
      · exact Or.inl rfl
    · rw [hword]
      exact Or.inr (Or.inr ⟨_, rfl⟩)

/-- A fetched value that is no key is refused, but not as missing. -/
theorem isNotFound_of_coerceFetched {key : Column} {v : Value} {f : Fault}
    (h : coerceFetched key v = .error f) : f.isNotFound = false := by
  rcases coerceFetched_cases key v with hv | ⟨n, hv⟩ | ⟨reason, hv⟩
  · rw [hv] at h
    cases h
  · exact isNotFound_of_coerce (hv ▸ h)
  · rw [hv] at h
    cases h
    rfl

/-- A key that was fetched may be refused, but not as missing. -/
theorem isNotFound_of_ofRow {key : Column} {row : FetchedRow} {f : Fault}
    (h : ofRow key row = .error f) : f.isNotFound = false := by
  rw [ofRow] at h
  cases hv : coerceFetched key (row.values.head?.getD .null) with
  | error e =>
    rw [hv] at h
    cases h
    exact isNotFound_of_coerceFetched hv
  | ok v =>
    rw [hv] at h
    cases h

/-- A lookup reports a missing row exactly if it has found none. -/
theorem ofLookup_eq_notFound_iff (table : String) (key : Column) (found : Option FetchedRow) :
    (∃ what, ofLookup table key found = .error (.notFound what)) ↔ found = none := by
  cases found with
  | none => exact ⟨fun _ => rfl, fun _ => ⟨_, rfl⟩⟩
  | some row =>
    constructor
    · rintro ⟨what, hwhat⟩
      cases isNotFound_of_ofRow hwhat
    · intro h
      cases h

end Key

/-! ### The rows that a lookup finds -/

namespace Engine

variable {κ : Type} {e : Engine κ}

/-- No row agrees with a column whose value is not a number. -/
theorem agrees_ne_of_isNaN (nans : e.BindsNaNAsNull) (unequal : e.NullEqualsNothing) {c : Column}
    (h : c.value.isNaN = true) (s : StoredRow κ) : e.agrees s c ≠ some true := by
  rw [Engine.agrees, Value.isNull_eq_false_of_isNaN h, if_neg Bool.false_ne_true]
  cases hp : e.bind c.value with
  | none => simp
  | some p => exact unequal _ p (nans c.value p h hp)

/-- The row of an insert agrees with a column exactly if the value is a number or none at all. -/
theorem agrees_iff_of_keeps (nans : e.BindsNaNAsNull) (unequal : e.NullEqualsNothing)
    {cols : List Column} {s : StoredRow κ} {c : Column} (kept : e.Keeps cols s) (hc : c ∈ cols)
    (null : e.KeepsNull c.name)
    (recognized : c.value.isNull = false → c.value.isNaN = false → e.Recognizes c) :
    e.agrees s c = some true ↔ c.value.isNaN = false := by
  cases hnan : c.value.isNaN with
  | true => simpa using agrees_ne_of_isNaN nans unequal hnan s
  | false =>
    have hagrees := e.agrees_of_keeps kept hc null fun hnull => recognized hnull hnan
    simp [hagrees]

/-- A lookup that compares a value that is not a number finds nothing, whatever is stored. -/
theorem eq_nil_of_isNaN (nans : e.BindsNaNAsNull) (unequal : e.NullEqualsNothing) {table : String}
    {row : List Column} {key c : Column} {params : List κ} {rows found : List (StoredRow κ)}
    (hparams : e.params? (Shape.filters row) = some params)
    (hc : c ∈ Shape.filters row) (hnan : c.value.isNaN = true)
    (h : (keyQuery table row key).IsAnswer e params rows found) : found = [] := by
  have hfilter : (rows.filter fun s =>
      (keyQuery table row key).truth e params s == some true) = [] := by
    rw [List.filter_eq_nil_iff]
    intro s _ htrue
    have hagrees := (e.truth_keyQuery_iff hparams).mp (beq_iff_eq.mp htrue) c hc
    exact agrees_ne_of_isNaN nans unequal hnan s hagrees
  exact List.perm_nil.mp (hfilter ▸ h.perm)

end Engine

namespace Operation

open Embedded

variable {κ ρ σ : Type} [Record ρ]

/-- **A lookup misses the row of its own insert exactly if it compares a value that is not a number.**
Only then the conditions of the lookup are not all true of the row, and only then the insert reports
that its row is missing. -/
theorem insert_notFound_iff (e : Engine κ) (c : Config) (r : ρ) {key : Column}
    {rows : List (StoredRow κ)} {new : StoredRow κ} (dialect : c.dialect = .sqlite)
    (hkey : primaryKey? (Record.row r c.dialect) = some key) (generated : key.noInsert = true)
    (nans : e.BindsNaNAsNull) (unequal : e.NullEqualsNothing)
    (nulls : ∀ col ∈ Shape.written (Record.row r c.dialect), e.KeepsNull col.name)
    (recognized : ∀ col ∈ Shape.written (Record.row r c.dialect), col.value.isNull = false →
      col.value.isNaN = false → e.Recognizes col)
    (kept : e.Keeps (Shape.written (Record.row r c.dialect)) new)
    (stored : new ∈ rows) :
    let q := keyQuery (Record.table r) (Record.row r c.dialect) key
    let lookup := Statement.keyLookup c.dialect (Record.table r) (Record.row r c.dialect) key
    lookup.sql = q.text c.dialect ∧
    ∃ params, lookup.args.mapM e.bind = some params ∧
      ((∀ condition ∈ q.conditions, condition.truth e params new = some true) ↔
        ∀ col ∈ Shape.filters (Record.row r c.dialect), col.value.isNaN = false) ∧
      ∀ found, q.IsAnswer e params rows found →
        ∀ (client : Client σ) (limits : Limits) (st : Statement) (w w₁ w₂ : World σ) (touched : Nat),
          Statement.insert c.dialect (Record.table r) (Record.row r c.dialect) = .ok st →
          w.call client (.execute st) (client.execute st) limits =
            (some (.ok ⟨touched, none⟩), w₁) →
          w₁.call client (.queryFirst lookup) (client.queryFirst lookup) limits =
            (some (.ok (q.fetched found).head?), w₂) →
          ((∃ what, (World.run client (insert c limits r) w).1 = some (.error (.notFound what))) ↔
            ∃ col ∈ Shape.filters (Record.row r c.dialect), col.value.isNaN = true) := by
  intro q lookup
  have hlookup : lookup = ⟨q.text c.dialect, _⟩ :=
    keyLookup_eq_text c.dialect (Record.table r) (Record.row r c.dialect) key
  obtain ⟨params, hparams⟩ := kept.exists_params?_eq_some
  have hagrees : ∀ col ∈ Shape.filters (Record.row r c.dialect),
      (e.agrees new col = some true ↔ col.value.isNaN = false) := by
    intro col hcol
    have hmem := mem_written_of_mem_filters hcol
    exact Engine.agrees_iff_of_keeps nans unequal kept hmem (nulls col hmem) (recognized col hmem)
  have htrue : q.truth e params new = some true ↔
      ∀ col ∈ Shape.filters (Record.row r c.dialect), col.value.isNaN = false := by
    rw [e.truth_keyQuery_iff hparams]
    exact forall₂_congr hagrees
  refine ⟨by rw [hlookup], params, by rw [hlookup]; exact hparams, ?_, ?_⟩
  · rw [← htrue, KeyQuery.truth, foldr_bothTrue_eq_true_iff, List.forall_mem_map]
  intro found hfound client limits st w w₁ w₂ touched laidOut inserted looked
  have plain := returningKey?_eq_none (.inl dialect) (Record.row r c.dialect)
  have hrun : (World.run client (insert c limits r) w).1 =
      some ((Key.ofLookup (Record.table r) key (q.fetched found).head?).map some) := by
    rw [run_insert_of_executed laidOut plain inserted,
      run_resolveKey_of_lookup hkey generated looked]
  have hhead : (q.fetched found).head? = none ↔ found = [] := by
    rw [KeyQuery.fetched, List.head?_map, Option.map_eq_none_iff, List.head?_eq_none_iff]
  have hfault : (∃ what, (World.run client (insert c limits r) w).1 = some (.error (.notFound what))) ↔
      found = [] := by
    rw [hrun, ← hhead, ← Key.ofLookup_eq_notFound_iff (Record.table r) key]
    refine exists_congr fun what => ?_
    cases Key.ofLookup (Record.table r) key (q.fetched found).head? <;> simp [Except.map]
  rw [hfault]
  constructor
  · rintro rfl
    by_contra hnumbers
    push Not at hnumbers
    -- the new row itself is found
    have hmem : new ∈ ([] : List (StoredRow κ)) := by
      rw [hfound.perm.mem_iff, List.mem_filter, beq_iff_eq, htrue]
      exact ⟨stored, fun col hcol => Bool.eq_false_iff.mpr (hnumbers col hcol)⟩
    cases hmem
  · rintro ⟨col, hcol, hnan⟩
    exact Engine.eq_nil_of_isNaN nans unequal hparams hcol hnan hfound

/-- An infinite value is found. -/
theorem insert_notFound_iff_infinite :
    let c : Config := ⟨.sqlite, '@'⟩
    let key : Column := ⟨"id", .int .i64 ⟨0, by decide⟩, some Dialect.sqlite.keyOptions⟩
    let x : Number.Double := ⟨0x7FF0000000000000⟩
    let r : Entry := ⟨"reading",
      [⟨⟨.int .i64, false⟩, key.value, some ⟨"id", fun d => some d.keyOptions⟩⟩,
        ⟨⟨.float, false⟩, .float x, some ⟨"x", fun _ => none⟩⟩]⟩
    let new : StoredRow Operand :=
      ⟨.int .i64 ⟨1, by decide⟩, fun _ => ⟨.text [0x49, 0x6E, 0x66], some .text⟩⟩
    let st : Statement := ⟨"INSERT INTO reading (x) VALUES (?)", [.float x]⟩
    let w : World Replay := ⟨⟨[.ok ⟨1, none⟩], [.ok [⟨["id"], [new.key]⟩]], 0, [], 0⟩, 0, []⟩
    Record.row r c.dialect = [key, ⟨"x", .float x, none⟩] ∧
      Statement.insert c.dialect (Record.table r) (Record.row r c.dialect) = .ok st ∧
      (engine fun _ => .text).Keeps (Shape.written (Record.row r c.dialect)) new ∧
      (keyQuery "reading" (Record.row r c.dialect) key).IsAnswer (engine fun _ => .text)
        [⟨.real x, none⟩] [new] [new] ∧
      ¬ ∃ what, (World.run Replay.client (insert c .none r) w).1 = some (.error (.notFound what)) := by
  intro c key x r new st w
  have hrow : Record.row r c.dialect = [key, ⟨"x", .float x, none⟩] := rfl
  have written : Shape.written (Record.row r c.dialect) = [⟨"x", .float x, none⟩] := rfl
  have laidOut : Statement.insert c.dialect (Record.table r) (Record.row r c.dialect) = .ok st := rfl
  have kept : (engine fun _ => .text).Keeps (Shape.written (Record.row r c.dialect)) new := by
    rw [written]
    rintro col (_ | ⟨_, ⟨⟩⟩)
    have hx : (Cell.real x).coerce .text = .text [0x49, 0x6E, 0x66] := by decide
    exact ⟨⟨.real x, none⟩, rfl, congrArg (Operand.mk · _) hx.symm⟩
  have hfilters : Shape.filters (Record.row r c.dialect) = [⟨"x", .float x, none⟩] := rfl
  have numbers : ¬ ∃ col ∈ Shape.filters (Record.row r c.dialect), col.value.isNaN = true := by
    rw [hfilters]
    decide
  have hfound : (keyQuery "reading" (Record.row r c.dialect) key).IsAnswer
      (engine fun _ => .text) [⟨.real x, none⟩] [new] [new] := by
    refine ⟨?_, List.pairwise_singleton _ _⟩
    -- infinity is stored as the text that the parameter is compared as
    have htrue : (keyQuery "reading" (Record.row r c.dialect) key).truth (engine fun _ => .text)
        [⟨.real x, none⟩] new = some true := by
      rw [Engine.truth_keyQuery_iff _ rfl]
      intro col hcol
      have hnan : col.value.isNaN = false := Bool.eq_false_iff.mpr fun h => numbers ⟨col, hcol, h⟩
      rw [Engine.agrees_iff_of_keeps (bindsNaNAsNull_engine _) (nullEqualsNothing_engine _) kept
        (mem_written_of_mem_filters hcol) (keepsNull_engine _ _) (recognizes_engine_of_text _ rfl)]
      exact hnan
    rw [List.filter_cons_of_pos (by rw [htrue]; rfl), List.filter_nil]
  obtain ⟨-, params, hparams, -, answers⟩ := insert_notFound_iff (σ := Replay) (engine fun _ => .text) c r
    rfl rfl rfl (bindsNaNAsNull_engine _) (nullEqualsNothing_engine _)
    (fun col _ => keepsNull_engine _ col.name) (fun col _ => recognizes_engine_of_text _ rfl) kept
    (List.mem_singleton_self new)
  obtain rfl : params = [⟨.real x, none⟩] := Option.some.inj (hparams.symm.trans rfl)
  have answered := answers [new] hfound Replay.client .none st w _ _ 1 laidOut rfl rfl
  exact ⟨hrow, laidOut, kept, hfound, fun missing => numbers (answered.mp missing)⟩

/-- A value that is not a number is stored as null, its condition is not true of the row that stores it,
and the insert reports that the row is missing. -/
theorem insert_notFound_of_nan :
    let c : Config := ⟨.sqlite, '@'⟩
    let key : Column := ⟨"id", .int .i64 ⟨0, by decide⟩, some Dialect.sqlite.keyOptions⟩
    let x : Number.Double := ⟨0x7FF8000000000000⟩
    let r : Entry := ⟨"t",
      [⟨⟨.int .i64, false⟩, key.value, some ⟨"id", fun d => some d.keyOptions⟩⟩,
        ⟨⟨.float, false⟩, .float x, some ⟨"x", fun _ => none⟩⟩]⟩
    let new : StoredRow Operand := ⟨.int .i64 ⟨1, by decide⟩, fun _ => ⟨.null, some .text⟩⟩
    let w : World Replay := ⟨⟨[.ok ⟨1, none⟩], [.ok []], 0, [], 0⟩, 0, []⟩
    (engine fun _ => .text).Keeps (Shape.written (Record.row r c.dialect)) new ∧
      (engine fun _ => .text).params? (Shape.filters (Record.row r c.dialect)) =
        some [⟨.null, none⟩] ∧
      (keyQuery "t" (Record.row r c.dialect) key).conditions = [.equals "x" 1] ∧
      (Condition.equals "x" 1).truth (engine fun _ => .text) [⟨.null, none⟩] new = none ∧
      (keyQuery "t" (Record.row r c.dialect) key).IsAnswer (engine fun _ => .text) [⟨.null, none⟩]
        [new] [] ∧
      (World.run Replay.client (insert c .none r) w).1 =
        some (.error (.notFound "t: inserted row not found while resolving id")) := by
  intro c key x r new w
  have written : Shape.written (Record.row r c.dialect) = [⟨"x", .float x, none⟩] := rfl
  have kept : (engine fun _ => .text).Keeps (Shape.written (Record.row r c.dialect)) new := by
    rw [written]
    rintro col (_ | ⟨_, ⟨⟩⟩)
    exact ⟨⟨.null, none⟩, rfl, rfl⟩
  exact ⟨kept, rfl, rfl, rfl, ⟨List.Perm.refl _, List.Pairwise.nil⟩, rfl⟩

end Operation

end RecordSql
