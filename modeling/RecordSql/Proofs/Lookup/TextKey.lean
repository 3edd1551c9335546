import RecordSql.Proofs.Lookup.Newest

/-!
# Keys that are texts

A database may generate a key as a text or as bytes.  An insert that has its key read back, or looked up,
answers with such a key as it was found (`run_insert_of_returned_text`, `run_insert_of_lookup_text`).  An id
that the connection reports is an integer, which is no key of these kinds; yet the insert takes it wherever
there is one, and has to answer with a fault for a row that has been stored.  So it answers with the key
exactly if no id is reported (`insert_textKey_iff`).
-/

namespace RecordSql

namespace Key

/-- Whether a key column holds a text or bytes. -/
def IsTextual (key : Column) : Prop :=
  key.value.kind = .text ∨ key.value.kind = .bytes

/-- The fault of an integer for a key column that takes none. -/
def notInteger (key : Column) : Fault :=
  .decode key.name ("expected integer type for primary key, got " ++ key.value.kind.name)

/-- A number is no key for a column of texts or bytes. -/
theorem coerce_of_isTextual {key : Column} (textual : IsTextual key) (n : Ranged .i64) :
    coerce key n = .error (notInteger key) := by
  unfold coerce notInteger
  rcases textual with hkind | hkind <;> rw [hkind] <;> rfl

/-- A fetched value of the kind of the key column is taken as it is. -/
theorem coerceFetched_of_isTextual {key : Column} {v : Value} (textual : IsTextual key)
    (hkind : v.kind = key.value.kind) : coerceFetched key v = .ok v := by
  -- a column of texts or bytes is no column of integers
  have hfixed : key.value.kind.isInteger = false := by
    rcases textual with h | h <;> rw [h] <;> rfl
  unfold IsTextual at textual
  rw [← hkind] at textual
  cases v with
  | text s =>
    unfold coerceFetched
    dsimp only
    rw [hfixed, if_neg Bool.false_ne_true]
  | bytes bs =>
    unfold coerceFetched
    dsimp only
    rw [hfixed, if_neg Bool.false_ne_true]
  | _ => rcases textual with h | h <;> cases h

/-- A fetched value of the key's own kind is the key. -/
theorem ofRow_of_isTextual {key : Column} {row : FetchedRow} {v : Value} (textual : IsTextual key)
    (hv : row.values.head? = some v) (hkind : v.kind = key.value.kind) :
    ofRow key row = .ok (key.withValue v) := by
  rw [ofRow, hv, Option.getD_some, coerceFetched_of_isTextual textual hkind]
  rfl

end Key

namespace Operation

variable {ρ σ : Type} [Record ρ] {client : Client σ} {c : Config} {limits : Limits} {r : ρ}
  {st : Statement} {key : Column} {found : FetchedRow} {v : Value} {touched : Nat} {w w₁ w₂ : World σ}

/-- An insert that reads its key back answers with the text. -/
theorem run_insert_of_returned_text
    (laidOut : Statement.insert c.dialect (Record.table r) (Record.row r c.dialect) = .ok st)
    (returning : returningKey? c.dialect (Record.row r c.dialect) = some key)
    (generated : key.noInsert = true) (textual : Key.IsTextual key)
    (answered : w.call client (.queryFirst st) (client.queryFirst st) limits =
      (some (.ok (some found)), w₁))
    (hv : found.values.head? = some v) (hkind : v.kind = key.value.kind) :
    World.run client (insert c limits r) w = (some (.ok (some (key.withValue v))), w₁) := by
  rw [run_insert_of_fetched laidOut returning answered, if_pos generated, Key.ofReturned,
    Key.ofRow_of_isTextual textual hv hkind]
  rfl

/-- An insert that has its key looked up answers with the text. -/
theorem run_insert_of_lookup_text
    (laidOut : Statement.insert c.dialect (Record.table r) (Record.row r c.dialect) = .ok st)
    (plain : returningKey? c.dialect (Record.row r c.dialect) = none)
    (hkey : primaryKey? (Record.row r c.dialect) = some key) (generated : key.noInsert = true)
    (textual : Key.IsTextual key)
    (inserted : w.call client (.execute st) (client.execute st) limits =
      (some (.ok ⟨touched, none⟩), w₁))
    (looked : w₁.call client
      (.queryFirst (Statement.keyLookup c.dialect (Record.table r) (Record.row r c.dialect) key))
      (client.queryFirst
        (Statement.keyLookup c.dialect (Record.table r) (Record.row r c.dialect) key)) limits =
      (some (.ok (some found)), w₂))
    (hv : found.values.head? = some v) (hkind : v.kind = key.value.kind) :
    World.run client (insert c limits r) w = (some (.ok (some (key.withValue v))), w₂) := by
  rw [run_insert_of_executed laidOut plain inserted, run_resolveKey_of_lookup hkey generated looked,
    Key.ofLookup, Key.ofRow_of_isTextual textual hv hkind]
  rfl

/-- An insert with a reported id looks no further. -/
theorem run_insert_of_reported_text {n : Ranged .i64}
    (laidOut : Statement.insert c.dialect (Record.table r) (Record.row r c.dialect) = .ok st)
    (plain : returningKey? c.dialect (Record.row r c.dialect) = none)
    (hkey : primaryKey? (Record.row r c.dialect) = some key) (generated : key.noInsert = true)
    (textual : Key.IsTextual key)
    (inserted : w.call client (.execute st) (client.execute st) limits =
      (some (.ok ⟨touched, some n⟩), w₁)) :
    World.run client (insert c limits r) w = (some (.error (Key.notInteger key)), w₁) := by
  rw [run_insert_of_executed laidOut plain inserted, resolveKey_of_generated hkey generated]
  dsimp only
  rw [Key.coerce_of_isTextual textual n]
  rfl

/-- **A reported id spoils a key that is a text.**  If an insert succeeds, and the lookup behind it would
find a key of the kind of the key column, then the insert answers with that key if the connection reports
no id, and with a fault of the key column if it reports one, whatever the id is. -/
theorem insert_textKey_iff {reported : Option (Ranged .i64)}
    (dialect : c.dialect = .sqlite ∨ c.dialect = .mysql)
    (laidOut : Statement.insert c.dialect (Record.table r) (Record.row r c.dialect) = .ok st)
    (hkey : primaryKey? (Record.row r c.dialect) = some key) (generated : key.noInsert = true)
    (textual : Key.IsTextual key)
    (inserted : w.call client (.execute st) (client.execute st) limits =
      (some (.ok ⟨touched, reported⟩), w₁))
    (looked : w₁.call client
      (.queryFirst (Statement.keyLookup c.dialect (Record.table r) (Record.row r c.dialect) key))
      (client.queryFirst
        (Statement.keyLookup c.dialect (Record.table r) (Record.row r c.dialect) key)) limits =
      (some (.ok (some found)), w₂))
    (hv : found.values.head? = some v) (hkind : v.kind = key.value.kind) :
    ((World.run client (insert c limits r) w).1 = some (.ok (some (key.withValue v))) ↔
      reported = none) ∧
    (reported = none →
      World.run client (insert c limits r) w = (some (.ok (some (key.withValue v))), w₂)) ∧
    (reported ≠ none →
      World.run client (insert c limits r) w = (some (.error (Key.notInteger key)), w₁)) := by
  have plain := returningKey?_eq_none dialect (Record.row r c.dialect)
  cases reported with
  | none =>
    have hrun :=
      run_insert_of_lookup_text laidOut plain hkey generated textual inserted looked hv hkind
    exact ⟨by simp [hrun], fun _ => hrun, fun h => absurd rfl h⟩
  | some n =>
    have hrun := run_insert_of_reported_text laidOut plain hkey generated textual inserted
    exact ⟨by simp [hrun], fun h => (by cases h), fun _ => hrun⟩

/-- A key of bytes is found where no id is reported, and spoiled by one. -/
theorem insert_textKey_iff_bytes :
    let c : Config := ⟨.mysql, '@'⟩
    let key : Column := ⟨"token", .bytes [], some .generatedKey⟩
    let r : Entry := ⟨"session",
      [⟨⟨.bytes, false⟩, key.value, some ⟨"token", fun _ => key.options⟩⟩,
        ⟨⟨.text, false⟩, .text "ann", some ⟨"user", fun _ => none⟩⟩]⟩
    let st : Statement := ⟨"INSERT INTO session (user) VALUES (?)", [.text "ann"]⟩
    let found : FetchedRow := ⟨["token"], [.bytes [0xC0, 0xFF]]⟩
    let w (reported : Option (Ranged .i64)) : World Replay :=
      ⟨⟨[.ok ⟨1, reported⟩], [.ok [found]], 0, [], 0⟩, 0, []⟩
    Record.row r c.dialect = [key, ⟨"user", .text "ann", none⟩] ∧
      Statement.insert c.dialect "session" (Record.row r c.dialect) = .ok st ∧
      (World.run Replay.client (insert c .none r) (w none)).1 =
        some (.ok (some (key.withValue (.bytes [0xC0, 0xFF])))) ∧
      (World.run Replay.client (insert c .none r) (w (some ⟨0, by decide⟩))).1 =
        some (.error (Key.notInteger key)) := by
  intro c key r st found w
  have laidOut : Statement.insert c.dialect (Record.table r) (Record.row r c.dialect) = .ok st := rfl
  have hkey : primaryKey? (Record.row r c.dialect) = some key := rfl
  let lookup := Statement.keyLookup c.dialect (Record.table r) (Record.row r c.dialect) key
  let w₁ (reported : Option (Ranged .i64)) : World Replay :=
    ((w reported).call Replay.client (.execute st) (Replay.client.execute st) .none).2
  let w₂ (reported : Option (Ranged .i64)) : World Replay :=
    ((w₁ reported).call Replay.client (.queryFirst lookup) (Replay.client.queryFirst lookup) .none).2
  have inserted (reported : Option (Ranged .i64)) :
      (w reported).call Replay.client (.execute st) (Replay.client.execute st) .none =
        (some (.ok ⟨1, reported⟩), w₁ reported) := rfl
  have looked (reported : Option (Ranged .i64)) :
      (w₁ reported).call Replay.client (.queryFirst lookup) (Replay.client.queryFirst lookup) .none =
        (some (.ok (some found)), w₂ reported) := rfl
  have hhead : found.values.head? = some (.bytes [0xC0, 0xFF]) := rfl
  obtain ⟨hfound, -, -⟩ := insert_textKey_iff (Or.inr rfl) laidOut hkey rfl (Or.inr rfl)
    (inserted none) (looked none) hhead rfl
  obtain ⟨-, -, hspoiled⟩ := insert_textKey_iff (Or.inr rfl) laidOut hkey rfl (Or.inr rfl)
    (inserted (some ⟨0, by decide⟩)) (looked (some ⟨0, by decide⟩)) hhead rfl
  exact ⟨rfl, laidOut, hfound.mpr rfl, congrArg Prod.fst (hspoiled (by simp))⟩

/-- The row is stored with the key that the lookup finds; the reported id keeps the insert from asking. -/
theorem insert_textKey_spoiled :
    let key : Column := ⟨"code", .text "", some .generatedKey⟩
    let r : Entry := ⟨"t",
      [⟨⟨.text, false⟩, key.value, some ⟨"code", fun _ => key.options⟩⟩,
        ⟨⟨.int .i64, false⟩, .int .i64 ⟨5, by decide⟩, some ⟨"n", fun _ => none⟩⟩]⟩
    let found : FetchedRow := ⟨["code"], [.text "K-1"]⟩
    let w (reported : Option (Ranged .i64)) : World Replay :=
      ⟨⟨[.ok ⟨1, reported⟩], [.ok [found]], 0, [], 0⟩, 0, []⟩
    (World.run Replay.client (insert ⟨.sqlite, '@'⟩ .none r) (w none)).1 =
        some (.ok (some (key.withValue (.text "K-1")))) ∧
      (World.run Replay.client (insert ⟨.sqlite, '@'⟩ .none r) (w (some ⟨5, by decide⟩))).1 =
        some (.error (.decode "code" "expected integer type for primary key, got text")) :=
  ⟨rfl, rfl⟩

end Operation

end RecordSql
