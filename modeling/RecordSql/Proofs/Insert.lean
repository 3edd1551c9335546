import RecordSql.Client.Replay
import RecordSql.Operation
import RecordSql.Proofs.FetchedKey
import RecordSql.Proofs.IntegerRange
import RecordSql.Proofs.Script.Trace

/-!
# The key that an insert answers with

An insert that succeeds has made one call, whose outcome is its `Report`.  The report tells the key of
the new row, or the lookup behind it does: `Told` lists the three ways in which a connection can tell that
the key is `n`.  Whichever way it is, the insert answers with the same column or the same fault, which
is `Key.answer` (`insert_answers`).

The ways meet in `Key.coerce`: a fetched integer goes through it as a reported one does
(`coerceFetched_of_integer?`), and for a key column of integers it is the narrowing of the key
(`map_coerce`).
-/

namespace RecordSql

/-! ### The key as a column -/

namespace Key

/-- The key column with the generated key `n`, narrowed to the kind of the column. -/
def answer (key : Column) (n : Ranged .i64) : Except Fault Column :=
  match key.value.kind.narrow n with
  | some v => .ok (key.withValue v)
  | none => .error (.keyOverflow key.name n.val key.value.kind)

/-- Whether a key column takes integers: an integer column does, and so does one that holds null. -/
def TakesIntegers (key : Column) : Prop :=
  key.value.kind = .null ∨ ∃ t, key.value.kind = .int t

/-- A key of integers takes the number if its type holds it. -/
theorem answer_of_holds {key : Column} {n : Ranged .i64} {t : IntType}
    (hkind : key.value.kind = .int t) (h : t.Holds n.val) :
    answer key n = .ok ⟨key.name, .int t ⟨n.val, h⟩, key.options⟩ := by
  rw [answer, hkind, Kind.narrow_of_holds h]
  rfl

/-- A column that takes integers takes them narrowed. -/
theorem map_coerce {key : Column} (n : Ranged .i64) (takes : TakesIntegers key) :
    (coerce key n).map key.withValue = answer key n := by
  rw [coerce, answer]
  rcases takes with hkind | ⟨t, hkind⟩ <;> rw [hkind]
  · rfl
  · cases Kind.narrow n (.int t) <;> rfl

end Key

/-- Whether the first value of a fetched row is the integer `n`. -/
def FetchedRow.StartsWith (row : FetchedRow) (n : Int) : Prop :=
  row.values.head?.bind Value.integer? = some n

/-- A fetched row that starts with an integer gives the key that a reported integer gives. -/
theorem Key.ofRow_of_startsWith {key : Column} {row : FetchedRow} {n : Ranged .i64}
    (takes : TakesIntegers key) (h : row.StartsWith n.val) : ofRow key row = answer key n := by
  obtain ⟨v, hhead, hv⟩ := Option.bind_eq_some_iff.mp h
  rw [ofRow, hhead, Option.getD_some, coerceFetched_of_integer? key hv, map_coerce n takes]

/-! ### What a connection tells -/

/-- The outcome of the call of an insert. -/
inductive Report where
  /-- The insert was executed. -/
  | executed (result : ExecResult)
  /-- The insert was queried, for the key that it reads back. -/
  | fetched (row : Option FetchedRow)

/-- The call of an insert with a report. -/
def Report.call (st : Statement) : Report → Call
  | executed _ => .execute st
  | fetched _ => .queryFirst st

variable {ρ σ : Type} [Record ρ]

/-- The insert `st` of a row succeeds: its call leads from one world to another, with a report. -/
inductive Accepted (client : Client σ) (limits : Limits) (d : Dialect) (row : List Column)
    (st : Statement) (w : World σ) : Report → World σ → Prop where
  | executed {result : ExecResult} {w' : World σ} (plain : returningKey? d row = none)
      (answered : w.call client (.execute st) (client.execute st) limits = (some (.ok result), w')) :
      Accepted client limits d row st w (.executed result) w'
  | fetched {key : Column} {found : Option FetchedRow} {w' : World σ}
      (returning : returningKey? d row = some key)
      (answered : w.call client (.queryFirst st) (client.queryFirst st) limits = (some (.ok found), w')) :
      Accepted client limits d row st w (.fetched found) w'

/-- Behind an insert with a report, the connection tells that the key of the new row is `n`, in the
calls of the list, which lead from one world to another. -/
inductive Told (client : Client σ) (limits : Limits) (lookup : Statement) (n : Ranged .i64) :
    Report → World σ → List Call → World σ → Prop where
  /-- The execution has reported the key. -/
  | reported {touched : Nat} {w : World σ} :
      Told client limits lookup n (.executed ⟨touched, some n⟩) w [] w
  /-- The execution has reported no key, and the first row of the lookup holds it. -/
  | lookedUp {touched : Nat} {found : FetchedRow} {w w' : World σ}
      (answered : w.call client (.queryFirst lookup) (client.queryFirst lookup) limits =
        (some (.ok (some found)), w'))
      (startsWith : found.StartsWith n.val) :
      Told client limits lookup n (.executed ⟨touched, none⟩) w [.queryFirst lookup] w'
  /-- The first row that the insert has read back holds the key. -/
  | returned {found : FetchedRow} {w : World σ} (startsWith : found.StartsWith n.val) :
      Told client limits lookup n (.fetched (some found)) w [] w

/-- An accepted insert is one call. -/
theorem Accepted.callsOf_eq {client : Client σ} {limits : Limits} {d : Dialect} {row : List Column}
    {st : Statement} {w w' : World σ} {report : Report}
    (h : Accepted client limits d row st w report w') :
    callsOf w'.trace = callsOf w.trace ++ [report.call st] := by
  cases h with
  | executed plain answered =>
    have hcalls := World.callsOf_call client (.execute st) (client.execute st) limits w
    rw [answered] at hcalls
    exact hcalls
  | fetched returning answered =>
    have hcalls := World.callsOf_call client (.queryFirst st) (client.queryFirst st) limits w
    rw [answered] at hcalls
    exact hcalls

/-- Behind an accepted insert stands the lookup, if the key is told by it, and nothing else. -/
theorem Told.callsOf_eq {client : Client σ} {limits : Limits} {lookup : Statement}
    {n : Ranged .i64} {report : Report} {w w' : World σ} {calls : List Call}
    (h : Told client limits lookup n report w calls w') :
    callsOf w'.trace = callsOf w.trace ++ calls := by
  cases h with
  | reported => exact (List.append_nil _).symm
  | lookedUp answered startsWith =>
    have hcalls :=
      World.callsOf_call client (.queryFirst lookup) (client.queryFirst lookup) limits w
    rw [answered] at hcalls
    exact hcalls
  | returned startsWith => exact (List.append_nil _).symm

/-! ### The run of an insert -/

/-- Two dialects have no clause for reading a key back. -/
theorem returningKey?_eq_none {d : Dialect} (h : d = .sqlite ∨ d = .mysql) (row : List Column) :
    returningKey? d row = none := by
  rcases h with rfl | rfl <;> rfl

/-- The key that is read back is the key of the row. -/
theorem primaryKey?_of_returningKey? {d : Dialect} {row : List Column} {key : Column}
    (h : returningKey? d row = some key) : primaryKey? row = some key := by
  rw [returningKey?] at h
  split at h
  · exact h
  · cases h

namespace Operation

variable {client : Client σ} {c : Config} {limits : Limits} {r : ρ} {st : Statement}
  {w w' : World σ}

/-- An insert whose statement is laid out queries for its key or executes. -/
theorem insert_eq
    (laidOut : Statement.insert c.dialect (Record.table r) (Record.row r c.dialect) = .ok st) :
    insert c limits r = (do
      match returningKey? c.dialect (Record.row r c.dialect) with
      | some key =>
        let returned ← fetchFirst st limits
        if key.noInsert then Script.ofExcept ((Key.ofReturned key returned).map some)
        else return some key
      | none =>
        let result ← send st limits
        resolveKey c limits (Record.table r) (Record.row r c.dialect) result) := by
  rw [insert, laidOut]
  rfl

/-- An insert that reads nothing back goes on with the outcome of its execution. -/
theorem run_insert_of_executed {result : ExecResult}
    (laidOut : Statement.insert c.dialect (Record.table r) (Record.row r c.dialect) = .ok st)
    (plain : returningKey? c.dialect (Record.row r c.dialect) = none)
    (answered : w.call client (.execute st) (client.execute st) limits = (some (.ok result), w')) :
    World.run client (insert c limits r) w =
      World.run client
        (resolveKey c limits (Record.table r) (Record.row r c.dialect) result) w' := by
  rw [insert_eq laidOut, plain]
  exact World.run_bind_of_ok client ((World.run_send client st limits w).trans answered)

/-- An insert that reads its key back has made its only call. -/
theorem run_insert_of_fetched {key : Column} {found : Option FetchedRow}
    (laidOut : Statement.insert c.dialect (Record.table r) (Record.row r c.dialect) = .ok st)
    (returning : returningKey? c.dialect (Record.row r c.dialect) = some key)
    (answered : w.call client (.queryFirst st) (client.queryFirst st) limits = (some (.ok found), w')) :
    World.run client (insert c limits r) w =
      (some (if key.noInsert then (Key.ofReturned key found).map some else .ok (some key)), w') := by
  rw [insert_eq laidOut, returning]
  refine (World.run_bind_of_ok client
    ((World.run_fetchFirst client st limits w).trans answered)).trans ?_
  cases key.noInsert <;> rfl

/-- A generated key is the reported number, or is looked up if none is reported. -/
theorem resolveKey_of_generated {table : String} {row : List Column} {key : Column}
    (hkey : primaryKey? row = some key) (generated : key.noInsert = true) (result : ExecResult) :
    resolveKey c limits table row result =
      (match result.lastInsertId with
      | some n => Script.ofExcept ((Key.coerce key n).map fun v => some (key.withValue v))
      | none => do
        let found ← fetchFirst (Statement.keyLookup c.dialect table row key) limits
        Script.ofExcept ((Key.ofLookup table key found).map some)) := by
  rw [resolveKey, hkey]
  show (if (!key.noInsert) = true then _ else _) = _
  rw [generated]
  rfl

/-- A key that is looked up is the first value of the row that is found. -/
theorem run_resolveKey_of_lookup {table : String} {row : List Column} {key : Column} {touched : Nat}
    {found : Option FetchedRow} (hkey : primaryKey? row = some key) (generated : key.noInsert = true)
    (answered : w.call client (.queryFirst (Statement.keyLookup c.dialect table row key))
      (client.queryFirst (Statement.keyLookup c.dialect table row key)) limits =
        (some (.ok found), w')) :
    World.run client (resolveKey c limits table row ⟨touched, none⟩) w =
      (some ((Key.ofLookup table key found).map some), w') := by
  rw [resolveKey_of_generated hkey generated]
  exact World.run_bind_of_ok client ((World.run_fetchFirst client _ limits w).trans answered)

/-- A key that is reported takes no further call. -/
theorem run_resolveKey_of_reported {table : String} {row : List Column} {key : Column}
    {touched : Nat} {n : Ranged .i64} (hkey : primaryKey? row = some key)
    (generated : key.noInsert = true) (takes : Key.TakesIntegers key) :
    World.run client (resolveKey c limits table row ⟨touched, some n⟩) w =
      (some ((Key.answer key n).map some), w) := by
  have hanswer : (Key.coerce key n).map (fun v => some (key.withValue v)) =
      (Key.answer key n).map some := by
    rw [← Key.map_coerce n takes]
    cases Key.coerce key n <;> rfl
  rw [resolveKey_of_generated hkey generated, ← hanswer]
  rfl

/-- However the connection tells the key of the new row, the insert answers with it. -/
theorem run_insert_of_told {key : Column} {n : Ranged .i64} {report : Report} {w₁ w₂ : World σ}
    {calls : List Call}
    (laidOut : Statement.insert c.dialect (Record.table r) (Record.row r c.dialect) = .ok st)
    (accepted : Accepted client limits c.dialect (Record.row r c.dialect) st w report w₁)
    (hkey : primaryKey? (Record.row r c.dialect) = some key) (generated : key.noInsert = true)
    (takes : Key.TakesIntegers key)
    (told : Told client limits
      (Statement.keyLookup c.dialect (Record.table r) (Record.row r c.dialect) key) n report w₁
      calls w₂) :
    World.run client (insert c limits r) w = (some ((Key.answer key n).map some), w₂) := by
  cases accepted with
  | executed plain answered =>
    rw [run_insert_of_executed laidOut plain answered]
    cases told with
    | reported => exact run_resolveKey_of_reported hkey generated takes
    | lookedUp answered startsWith =>
      rw [run_resolveKey_of_lookup hkey generated answered, Key.ofLookup,
        Key.ofRow_of_startsWith takes startsWith]
  -- a key that is read back is the key of the row
  | fetched returning answered =>
    obtain rfl := Option.some.inj ((primaryKey?_of_returningKey? returning).symm.trans hkey)
    rw [run_insert_of_fetched laidOut returning answered, generated]
    cases told with
    | returned startsWith =>
      rw [if_pos rfl, Key.ofReturned, Key.ofRow_of_startsWith takes startsWith]

end Operation

end RecordSql
