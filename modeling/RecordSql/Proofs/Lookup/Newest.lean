import RecordSql.Proofs.Embedded.Engine
import RecordSql.Proofs.Insert

/-!
# The newest row

A key lookup finds the row that has just been stored, as long as its key is greater than the keys that
were there before and its values are told by comparing them.  Other rows may agree with everything that
the lookup compares; they come behind it (`head?_eq`).  So an insert answers the same
whether the connection reports the key or leaves it to the lookup (`insert_eq_of_lookup`).
-/

namespace RecordSql

variable {κ : Type}

/-- The first row of an answer is the one with the greatest key, if that is found at all. -/
theorem KeyQuery.IsAnswer.head?_eq {e : Engine κ} {params : List κ}
    {contents rows found : List (StoredRow κ)} {new : StoredRow κ} {q : KeyQuery} {k : Int}
    (h : q.IsAnswer e params rows found) (hrows : rows.Perm (new :: contents))
    (hk : new.key.integer? = some k)
    (greatest : ∀ s ∈ contents, ∃ m, s.key.integer? = some m ∧ m < k)
    (htrue : q.truth e params new = some true) : found.head? = some new := by
  have hmem : new ∈ found := by
    rw [h.perm.mem_iff, List.mem_filter, hrows.mem_iff]
    exact ⟨List.mem_cons_self, by rw [htrue]; rfl⟩
  cases found with
  | nil => cases hmem
  | cons first rest =>
    have hfirst : first ∈ new :: contents := by
      have := h.perm.mem_iff.mp (List.mem_cons_self (a := first) (l := rest))
      exact hrows.mem_iff.mp (List.mem_filter.mp this).1
    rcases List.mem_cons.mp hfirst with rfl | hold
    · rfl
    · -- an older row cannot stand in front of the new one
      obtain ⟨m, hm, hlt⟩ := greatest first hold
      rcases List.mem_cons.mp hmem with rfl | hrest
      · rfl
      · have := (List.pairwise_cons.mp h.descending).1 new hrest m k hm hk
        omega

namespace Operation

variable {ρ σ τ : Type} [Record ρ]

/-- The row that a query for keys brings back for a stored row starts with its key. -/
theorem startsWith_of_integer? {q : KeyQuery} {s : StoredRow κ} {k : Int}
    (h : s.key.integer? = some k) : FetchedRow.StartsWith ⟨[q.key], [s.key]⟩ k := h

/-- **The lookup finds the row that has just been stored**, and an insert that has to look its key up
answers as one that is told the key. -/
theorem insert_eq_of_lookup (e : Engine κ) (c : Config) (r : ρ) {key : Column} {k : Ranged .i64}
    {contents rows : List (StoredRow κ)} {new : StoredRow κ}
    (dialect : c.dialect = .sqlite ∨ c.dialect = .mysql)
    (hkey : primaryKey? (Record.row r c.dialect) = some key) (generated : key.noInsert = true)
    (integers : ∃ t, key.value.kind = .int t)
    (numbers : ∀ col ∈ Record.row r c.dialect, col.value.isNaN = false)
    (nulls : ∀ col ∈ Shape.written (Record.row r c.dialect), e.KeepsNull col.name)
    (recognized : ∀ col ∈ Shape.written (Record.row r c.dialect), col.value.isNull = false →
      col.value.isNaN = false → e.Recognizes col)
    (kept : e.Keeps (Shape.written (Record.row r c.dialect)) new)
    (hk : new.key.integer? = some k.val)
    (greatest : ∀ s ∈ contents, ∃ m, s.key.integer? = some m ∧ m < k.val)
    (hrows : rows.Perm (new :: contents)) :
    let q := keyQuery (Record.table r) (Record.row r c.dialect) key
    let lookup := Statement.keyLookup c.dialect (Record.table r) (Record.row r c.dialect) key
    lookup.sql = q.text c.dialect ∧
    ∃ params, lookup.args.mapM e.bind = some params ∧
      ∀ found, q.IsAnswer e params rows found →
        found.head? = some new ∧
        ∀ (client : Client σ) (client' : Client τ) (limits limits' : Limits) (st : Statement)
          (w w₁ w₂ : World σ) (v v₁ : World τ) (touched touched' : Nat),
          Statement.insert c.dialect (Record.table r) (Record.row r c.dialect) = .ok st →
          w.call client (.execute st) (client.execute st) limits =
            (some (.ok ⟨touched, none⟩), w₁) →
          w₁.call client (.queryFirst lookup) (client.queryFirst lookup) limits =
            (some (.ok (q.fetched found).head?), w₂) →
          v.call client' (.execute st) (client'.execute st) limits' =
            (some (.ok ⟨touched', some k⟩), v₁) →
          World.run client (insert c limits r) w = (some ((Key.answer key k).map some), w₂) ∧
          World.run client' (insert c limits' r) v = (some ((Key.answer key k).map some), v₁) := by
  intro q lookup
  have hlookup : lookup = ⟨q.text c.dialect, _⟩ :=
    keyLookup_eq_text c.dialect (Record.table r) (Record.row r c.dialect) key
  obtain ⟨params, hparams⟩ := kept.exists_params?_eq_some
  -- the new row agrees with everything that the lookup compares
  have htrue : q.truth e params new = some true := by
    rw [e.truth_keyQuery_iff hparams]
    intro col hcol
    have hmem := mem_written_of_mem_filters hcol
    exact e.agrees_of_keeps kept hmem (nulls col hmem)
      fun hnull => recognized col hmem hnull (numbers col (List.mem_filter.mp hcol).1)
  refine ⟨by rw [hlookup], params, by rw [hlookup]; exact hparams, fun found hfound => ?_⟩
  have hhead := hfound.head?_eq hrows hk greatest htrue
  refine ⟨hhead, ?_⟩
  intro client client' limits limits' st w w₁ w₂ v v₁ touched touched' laidOut inserted looked told
  have plain := returningKey?_eq_none dialect (Record.row r c.dialect)
  have takes : Key.TakesIntegers key := Or.inr integers
  rw [KeyQuery.fetched, List.head?_map, hhead] at looked
  constructor
  · exact run_insert_of_told laidOut (.executed plain inserted) hkey generated takes
      (.lookedUp looked (startsWith_of_integer? hk))
  · exact run_insert_of_told laidOut (.executed plain told) hkey generated takes .reported

/-- A row that agrees in everything with one that is there already is the one that is found. -/
theorem insert_eq_of_lookup_twice :
    let c : Config := ⟨.sqlite, '@'⟩
    let key : Column := ⟨"id", .int .u8 ⟨0, by decide⟩, some Dialect.sqlite.keyOptions⟩
    let r : Entry := ⟨"note",
      [⟨⟨.int .u8, false⟩, key.value, some ⟨"id", fun d => some d.keyOptions⟩⟩,
        ⟨⟨.text, false⟩, .text "a", some ⟨"label", fun _ => none⟩⟩,
        ⟨⟨.text, true⟩, .null, some ⟨"remark", fun _ => none⟩⟩]⟩
    let k : Ranged .i64 := ⟨8, by decide⟩
    let e := Embedded.engine fun _ => .text
    let cells (name : String) : Embedded.Operand :=
      ⟨if name = "label" then .text [97] else .null, some .text⟩
    let old : StoredRow Embedded.Operand := ⟨.int .i64 ⟨5, by decide⟩, cells⟩
    let new : StoredRow Embedded.Operand := ⟨.int .i64 k, cells⟩
    let st : Statement := ⟨"INSERT INTO note (label,remark) VALUES (?,?)", [.text "a", .null]⟩
    let lookup : Statement :=
      ⟨"SELECT id FROM note WHERE label=? AND remark IS NULL ORDER BY id DESC", [.text "a"]⟩
    let w : World Replay :=
      ⟨⟨[.ok ⟨1, none⟩], [.ok [⟨["id"], [new.key]⟩, ⟨["id"], [old.key]⟩]], 0, [], 0⟩, 0, []⟩
    let w₁ := (w.call Replay.client (.execute st) (Replay.client.execute st) .none).2
    let w₂ := (w₁.call Replay.client (.queryFirst lookup) (Replay.client.queryFirst lookup) .none).2
    let v : World Replay := ⟨⟨[.ok ⟨1, some k⟩], [], 0, [], 0⟩, 0, []⟩
    let v₁ := (v.call Replay.client (.execute st) (Replay.client.execute st) .none).2
    Record.row r c.dialect = [key, ⟨"label", .text "a", none⟩, ⟨"remark", .null, none⟩] ∧
      e.Keeps (Shape.written (Record.row r c.dialect)) new ∧
      (keyQuery "note" (Record.row r c.dialect) key).IsAnswer e [⟨.text [97], none⟩] [old, new]
        [new, old] ∧
      World.run Replay.client (insert c .none r) w =
        (some (.ok (some (key.withValue (.int .u8 ⟨8, by decide⟩)))), w₂) ∧
      World.run Replay.client (insert c .none r) v =
        (some (.ok (some (key.withValue (.int .u8 ⟨8, by decide⟩)))), v₁) := by
  intro c key r k e cells old new st lookup w w₁ w₂ v v₁
  have hrow : Record.row r c.dialect = [key, ⟨"label", .text "a", none⟩, ⟨"remark", .null, none⟩] :=
    rfl
  have written : Shape.written (Record.row r c.dialect) =
      [⟨"label", .text "a", none⟩, ⟨"remark", .null, none⟩] := rfl
  have kept : e.Keeps (Shape.written (Record.row r c.dialect)) new := by
    rw [written]
    rintro col (_ | ⟨_, _ | ⟨_, ⟨⟩⟩⟩)
    · exact ⟨⟨.text [97], none⟩, rfl, rfl⟩
    · exact ⟨⟨.null, none⟩, rfl, rfl⟩
  have hfound : (keyQuery "note" (Record.row r c.dialect) key).IsAnswer e [⟨.text [97], none⟩]
      [old, new] [new, old] := by
    -- both rows are found, the one with the greater key first
    refine ⟨List.Perm.swap old new [], List.pairwise_pair.mpr fun m n hm hn => ?_⟩
    cases hm
    cases hn
    decide
  have numbers : ∀ col ∈ Record.row r c.dialect, col.value.isNaN = false := by
    rw [hrow]
    decide
  have hgreatest : ∀ s ∈ [old], ∃ m, s.key.integer? = some m ∧ m < k.val := by
    rintro s (_ | ⟨_, ⟨⟩⟩)
    exact ⟨5, rfl, by decide⟩
  obtain ⟨-, params, hparams, answers⟩ := insert_eq_of_lookup (σ := Replay) (τ := Replay) e c r
    (Or.inl rfl) rfl rfl ⟨.u8, rfl⟩ numbers
    (fun col _ => Embedded.keepsNull_engine _ col.name)
    (fun col _ => Embedded.recognizes_engine_of_text _ rfl) kept rfl hgreatest
    (List.Perm.swap new old [])
  obtain rfl : params = [⟨.text [97], none⟩] := Option.some.inj (hparams.symm.trans rfl)
  obtain ⟨-, runs⟩ := answers [new, old] hfound
  obtain ⟨hlookedUp, htold⟩ := runs Replay.client Replay.client .none .none st w w₁ w₂ v v₁ 1 1
    rfl rfl rfl rfl
  exact ⟨hrow, kept, hfound, hlookedUp, htold⟩

end Operation

end RecordSql
