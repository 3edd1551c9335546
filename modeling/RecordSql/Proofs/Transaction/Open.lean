import RecordSql.Proofs.Embedded.Session
import RecordSql.Proofs.Transaction.Settlement

/-!
# Transactions that stay open

A connection keeps track of its transaction: `BEGIN` opens one, and a `COMMIT` or a `ROLLBACK` that
succeeds closes it (`KeepsTransactions`).  A `COMMIT` that fails does not, and a transaction does
not send anything behind it.  So a transaction stays open in exactly one case (`isOpen_within_iff`):
its work has succeeded and its `COMMIT` has failed.

A database in memory does not refuse a `COMMIT` by itself, so none of its transactions stays open
(`isOpen_within`), but it does while another connection reads it (`sharedClient`).
-/

namespace RecordSql

open Transaction

/-! ### Any connection -/

namespace Transaction

variable {σ α : Type} {client : Client σ} {isOpen : σ → Bool} {w w₁ : World σ}

/-- What the statements of a transaction do to a connection, `isOpen` telling whether it has an open
transaction. -/
structure KeepsTransactions (client : Client σ) (isOpen : σ → Bool) : Prop where
  /-- `BEGIN` opens a transaction. -/
  begins : ∀ {w w' : World σ} {r : ExecResult},
    w.execute client (bare "BEGIN") = (some (.ok r), w') → isOpen w'.state = true
  /-- A `COMMIT` that succeeds closes it. -/
  commits : ∀ {w w' : World σ} {r : ExecResult},
    w.execute client (bare "COMMIT") = (some (.ok r), w') → isOpen w'.state = false
  /-- A `ROLLBACK` that succeeds closes it. -/
  rollsBack : ∀ {w w' : World σ} {r : ExecResult},
    w.execute client (bare "ROLLBACK") = (some (.ok r), w') → isOpen w'.state = false
  /-- A `COMMIT` that fails leaves it as it is. -/
  keeps : ∀ {w w' : World σ} {e : Fault},
    w.execute client (bare "COMMIT") = (some (.error e), w') → isOpen w'.state = isOpen w.state

/-- Settling work that has succeeded leaves a transaction open if and only if its `COMMIT` fails. -/
theorem isOpen_settle_ok_iff (laws : KeepsTransactions client isOpen) {a : α}
    {result : Except Fault α} (settled : World.run client (settle (.ok a)) w = (some result, w₁)) :
    isOpen w₁.state = true ↔
      isOpen w.state = true ∧ ∃ e, w.execute client (bare "COMMIT") = (some (.error e), w₁) := by
  rw [run_settle, closing_ok] at settled
  rcases hanswer : w.execute client (bare "COMMIT") with ⟨_ | _ | r, w'⟩ <;>
    rw [hanswer] at settled <;> cases settled
  · simp [laws.keeps hanswer]
  · simp [laws.commits hanswer]

/-- Settling work that has failed closes the transaction if its `ROLLBACK` succeeds. -/
theorem isOpen_settle_error (laws : KeepsTransactions client isOpen) {e : Fault} {r : ExecResult}
    {w' : World σ} (rolledBack : w.execute client (bare "ROLLBACK") = (some (.ok r), w')) :
    isOpen (World.run client (settle (.error e : Except Fault α)) w).2.state = false := by
  rw [run_settle, closing_error, rolledBack]
  exact laws.rollsBack rolledBack

/-- **A transaction that ends stays open if and only if its work succeeds and its `COMMIT` fails**,
unless the work has closed it by itself.  What is answered then is the fault of the `COMMIT`.  A
`ROLLBACK` is taken to succeed whenever it is sent. -/
theorem isOpen_within_iff {work : Script α} {r : ExecResult}
    (laws : KeepsTransactions client isOpen)
    (begun : w.execute client (bare "BEGIN") = (some (.ok r), w₁))
    (rolledBack : ∀ e w₂, World.run client work w₁ = (some (.error e), w₂) →
      ∃ r w₃, w₂.execute client (bare "ROLLBACK") = (some (.ok r), w₃)) :
    isOpen w₁.state = true ∧
      ∀ result after, World.run client (within work) w = (some result, after) →
        (isOpen after.state = true ↔
          ∃ a w₂ e, World.run client work w₁ = (some (.ok a), w₂) ∧ isOpen w₂.state = true ∧
            w₂.execute client (bare "COMMIT") = (some (.error e), after) ∧ result = .error e) := by
  refine ⟨laws.begins begun, fun result after ended => ?_⟩
  rcases hwork : World.run client work w₁ with ⟨_ | outcome, w₂⟩
  · -- work that hangs has no end
    rw [run_within_of_stuck begun hwork] at ended
    cases ended
  rw [run_within_of_begun begun hwork] at ended
  cases outcome with
  | error e =>
    obtain ⟨r', w₃, hrollback⟩ := rolledBack e w₂ hwork
    have hclosed := isOpen_settle_error (α := α) (e := e) laws hrollback
    rw [ended] at hclosed
    simp [hclosed]
  | ok a =>
    rw [isOpen_settle_ok_iff laws ended]
    constructor
    · rintro ⟨hopen, e, hcommit⟩
      refine ⟨a, w₂, e, rfl, hopen, hcommit, ?_⟩
      rw [run_settle, closing_ok, hcommit] at ended
      cases ended
      rfl
    · rintro ⟨a', w₂', e, hok, hopen, hcommit, -⟩
      cases hok
      exact ⟨hopen, e, hcommit⟩

end Transaction

/-! ### Databases in memory -/

namespace Embedded.Connection

open ConnectionTo (worldAfter)

variable {w w₁ : World Connection}

/-- Whether a connection has an open transaction. -/
def isOpen (c : Connection) : Bool :=
  c.database.saved.isSome

section Statements

variable (st : RecordSql.Statement) {changed : Except Issue Database}

/-- A statement that changes the database has no answer but that, and takes no time. -/
theorem ran_of_changed
    (h : w.state.database.runText st.sql (st.args.map Cell.ofValue?) =
      w.state.database.finished (changed.map fun db => (.empty, db))) :
    ConnectionTo.ran Database.library st w =
      let f := w.state.database.finished (changed.map fun db => (.empty, db))
      ⟨f.result.mapError Issue.message, f.after, some 0⟩ := by
  have hmade : (w.state.database.finished (changed.map fun db => (Reply.empty, db))).made = some 0 := by
    cases changed <;> rfl
  show Ran.mk _ _ ((w.state.database.runText st.sql (st.args.map Cell.ofValue?)).made.map
    (· / rowsPerMillisecond)) = _
  rw [h, hmade]
  rfl

/-- A statement without an answer goes through if the database can be changed. -/
theorem execute_of_ok {after : Database}
    (h : w.state.database.runText st.sql (st.args.map Cell.ofValue?) =
      w.state.database.finished (changed.map fun db => (.empty, db)))
    (hok : changed = .ok after) :
    ∃ r, w.execute client st =
      (some (.ok r), worldAfter w ⟨.ok .empty, after, some 0⟩ 0 (.execute st)) := by
  have hran := ran_of_changed st h
  rw [hok] at hran
  have hduration : (ConnectionTo.ran Database.library st w).duration = some 0 :=
    congrArg Ran.duration hran
  have hcall := ConnectionTo.call_execute hduration
  rw [hran] at hcall
  exact ⟨_, hcall⟩

/-- A statement without an answer changes nothing if the database cannot be changed. -/
theorem execute_of_error {issue : Issue}
    (h : w.state.database.runText st.sql (st.args.map Cell.ofValue?) =
      w.state.database.finished (changed.map fun db => (.empty, db)))
    (herror : changed = .error issue) (whole : issue.inRow = false) :
    w.execute client st = (some (.error (.sqlite issue.message)),
      worldAfter w ⟨.error issue.message, w.state.database, some 0⟩ 0 (.execute st)) := by
  have hran := ran_of_changed st h
  rw [herror] at hran
  change _ = (Ran.mk (.error issue.message) (if issue.inRow then _ else _) (some 0)) at hran
  rw [whole, if_neg Bool.false_ne_true] at hran
  have hduration : (ConnectionTo.ran Database.library st w).duration = some 0 :=
    congrArg Ran.duration hran
  have hcall := ConnectionTo.call_execute hduration
  rw [hran] at hcall
  exact hcall

end Statements

/-- No transaction begins within another one. -/
theorem execute_begin_of_isOpen (h : isOpen w.state = true) :
    w.execute client (bare "BEGIN") =
      (some (.error (.sqlite "cannot start a transaction within a transaction")),
        worldAfter w ⟨.error "cannot start a transaction within a transaction", w.state.database,
          some 0⟩ 0 (.execute (bare "BEGIN"))) := by
  obtain ⟨tables, hsaved⟩ := Option.isSome_iff_exists.mp h
  have hstart : w.state.database.start = .error .transactionOpen := by simp [Database.start, hsaved]
  exact execute_of_error _ rfl hstart rfl

/-- A `BEGIN` that succeeds leaves a transaction open. -/
theorem execute_begin_of_not_isOpen (h : isOpen w.state = false) :
    ∃ r w', w.execute client (bare "BEGIN") = (some (.ok r), w') ∧ isOpen w'.state = true := by
  have hsaved : w.state.database.saved = none := by simpa [isOpen] using h
  have hstart : w.state.database.start =
      .ok { w.state.database with saved := some w.state.database.tables } := by
    simp [Database.start, hsaved]
  obtain ⟨r, hr⟩ := execute_of_ok (bare "BEGIN") rfl hstart
  exact ⟨r, _, hr, rfl⟩

/-- An open transaction is closed by `COMMIT`. -/
theorem execute_commit_of_isOpen (h : isOpen w.state = true) :
    ∃ r w', w.execute client (bare "COMMIT") = (some (.ok r), w') ∧ isOpen w'.state = false := by
  obtain ⟨tables, hsaved⟩ := Option.isSome_iff_exists.mp h
  have hcommit : w.state.database.commit = .ok { w.state.database with saved := none } := by
    simp [Database.commit, hsaved]
  obtain ⟨r, hr⟩ := execute_of_ok (bare "COMMIT") rfl hcommit
  exact ⟨r, _, hr, rfl⟩

theorem execute_commit_of_not_isOpen (h : isOpen w.state = false) :
    ∃ e w', w.execute client (bare "COMMIT") = (some (.error e), w') ∧ isOpen w'.state = false := by
  have hsaved : w.state.database.saved = none := by simpa [isOpen] using h
  have hcommit : w.state.database.commit = .error (.noTransaction "commit") := by
    simp [Database.commit, hsaved]
  exact ⟨_, _, execute_of_error (bare "COMMIT") rfl hcommit rfl, h⟩

/-- An open transaction is closed by `ROLLBACK` as well. -/
theorem execute_rollback_of_isOpen (h : isOpen w.state = true) :
    ∃ r w', w.execute client (bare "ROLLBACK") = (some (.ok r), w') ∧ isOpen w'.state = false := by
  obtain ⟨tables, hsaved⟩ := Option.isSome_iff_exists.mp h
  have hrollback : w.state.database.rollback =
      .ok { w.state.database with tables := tables, saved := none } := by
    simp [Database.rollback, hsaved]
  obtain ⟨r, hr⟩ := execute_of_ok (bare "ROLLBACK") rfl hrollback
  exact ⟨r, _, hr, rfl⟩

theorem execute_rollback_of_not_isOpen (h : isOpen w.state = false) :
    ∃ e w', w.execute client (bare "ROLLBACK") = (some (.error e), w') ∧
      isOpen w'.state = false := by
  have hsaved : w.state.database.saved = none := by simpa [isOpen] using h
  have hrollback : w.state.database.rollback = .error (.noTransaction "rollback") := by
    simp [Database.rollback, hsaved]
  exact ⟨_, _, execute_of_error (bare "ROLLBACK") rfl hrollback rfl, h⟩

/-- The databases in memory keep transactions. -/
theorem keepsTransactions : KeepsTransactions client isOpen where
  begins {w w' r} h := by
    cases hopen : isOpen w.state with
    | true => rw [execute_begin_of_isOpen hopen] at h; cases h
    | false =>
      obtain ⟨r', w₁, hr, hafter⟩ := execute_begin_of_not_isOpen hopen
      rw [hr] at h
      cases h
      exact hafter
  commits {w w' r} h := by
    cases hopen : isOpen w.state with
    | true =>
      obtain ⟨r', w₁, hr, hafter⟩ := execute_commit_of_isOpen hopen
      rw [hr] at h
      cases h
      exact hafter
    | false =>
      obtain ⟨e, w₁, hr, -⟩ := execute_commit_of_not_isOpen hopen
      rw [hr] at h
      cases h
  rollsBack {w w' r} h := by
    cases hopen : isOpen w.state with
    | true =>
      obtain ⟨r', w₁, hr, hafter⟩ := execute_rollback_of_isOpen hopen
      rw [hr] at h
      cases h
      exact hafter
    | false =>
      obtain ⟨e, w₁, hr, -⟩ := execute_rollback_of_not_isOpen hopen
      rw [hr] at h
      cases h
  -- a `COMMIT` fails only where no transaction is open, and leaves it so
  keeps {w w' e} h := by
    cases hopen : isOpen w.state with
    | true =>
      obtain ⟨r', w₁, hr, -⟩ := execute_commit_of_isOpen hopen
      rw [hr] at h
      cases h
    | false =>
      obtain ⟨e', w₁, hr, hafter⟩ := execute_commit_of_not_isOpen hopen
      rw [hr] at h
      cases h
      exact hafter

/-- A transaction of a database in memory is closed behind its end, whatever its work has done. -/
theorem isOpen_settle {α : Type} (outcome : Except Fault α) (w : World Connection) :
    isOpen (World.run client (settle outcome) w).2.state = false := by
  rw [run_settle]
  cases outcome with
  | ok a =>
    rw [closing_ok]
    cases hopen : isOpen w.state with
    | true =>
      obtain ⟨r, w', hr, hafter⟩ := execute_commit_of_isOpen hopen
      rw [hr]
      exact hafter
    | false =>
      -- the work has closed the transaction itself, and the `COMMIT` fails for want of one
      obtain ⟨e, w', hr, hafter⟩ := execute_commit_of_not_isOpen hopen
      rw [hr]
      exact hafter
  | error e =>
    rw [closing_error]
    cases hopen : isOpen w.state with
    | true =>
      obtain ⟨r, w', hr, hafter⟩ := execute_rollback_of_isOpen hopen
      rw [hr]
      exact hafter
    | false =>
      obtain ⟨e', w', hr, hafter⟩ := execute_rollback_of_not_isOpen hopen
      rw [hr]
      exact hafter

/-- No transaction of a database in memory stays open that comes to its end. -/
theorem isOpen_within {α : Type} {work : Script α} {r : ExecResult} {result : Except Fault α}
    {after : World Connection} (begun : w.execute client (bare "BEGIN") = (some (.ok r), w₁))
    (ended : World.run client (within work) w = (some result, after)) :
    isOpen after.state = false := by
  rcases hwork : World.run client work w₁ with ⟨_ | outcome, w₂⟩
  · rw [run_within_of_stuck begun hwork] at ended
    cases ended
  · rw [run_within_of_begun begun hwork] at ended
    have hclosed := isOpen_settle outcome w₂
    rwa [ended] at hclosed

/-! ### A database that is read -/

/-- The call that is refused because of another connection. -/
def refusal : Pending Connection ExecResult where
  start := id
  duration _ := some 0
  finish c := (.error (.sqlite "database is locked"), c)

/-- The client of a connection to a database that another connection reads.  What is written then
cannot be made durable, so a `COMMIT` is refused; everything else goes on as usual. -/
def sharedClient : Client Connection :=
  { client with execute := fun st => if st = bare "COMMIT" then refusal else client.execute st }

/-- A connection to a shared database differs in its `COMMIT` only. -/
theorem execute_shared {st : RecordSql.Statement} (h : st ≠ bare "COMMIT") :
    w.execute sharedClient st = w.execute client st := by
  have hexecute : sharedClient.execute st = client.execute st := if_neg h
  unfold World.execute
  rw [hexecute]
  rfl

/-- The `COMMIT` of a shared connection is refused, and changes nothing. -/
theorem execute_commit_shared :
    w.execute sharedClient (bare "COMMIT") = (some (.error (.sqlite "database is locked")), { w with
      trace := w.trace ++ [.logged (bare "COMMIT"), .called (.execute (bare "COMMIT"))] }) := by
  have hexecute : sharedClient.execute (bare "COMMIT") = refusal := rfl
  unfold World.execute
  rw [hexecute, World.call_of_duration (d := 0) rfl]
  rfl

/-- So transactions are kept, though they are not closed. -/
theorem keepsTransactions_shared : KeepsTransactions sharedClient isOpen where
  begins h := by
    rw [execute_shared (by decide)] at h
    exact keepsTransactions.begins h
  commits h := by
    rw [execute_commit_shared] at h
    cases h
  rollsBack h := by
    rw [execute_shared (by decide)] at h
    exact keepsTransactions.rollsBack h
  keeps h := by
    rw [execute_commit_shared] at h
    cases h
    rfl

theorem execute_begin_shared (h : isOpen w.state = false) :
    ∃ r w', w.execute sharedClient (bare "BEGIN") = (some (.ok r), w') ∧ isOpen w'.state = true := by
  obtain ⟨r, w', hbegin, hopen⟩ := execute_begin_of_not_isOpen h
  rw [← execute_shared (by decide)] at hbegin
  exact ⟨r, w', hbegin, hopen⟩

theorem execute_rollback_shared (h : isOpen w.state = true) :
    ∃ r w', w.execute sharedClient (bare "ROLLBACK") = (some (.ok r), w') := by
  obtain ⟨r, w', hrollback, -⟩ := execute_rollback_of_isOpen h
  rw [← execute_shared (by decide)] at hrollback
  exact ⟨r, w', hrollback⟩

/-- Work that fails is rolled back, and its transaction is closed. -/
theorem isOpen_within_iff_rolledBack :
    let w : World Connection := ⟨Connection.initial true, 0, []⟩
    let work : Script Unit := Script.fail (.validation "boom")
    ∃ r w₁ after, KeepsTransactions sharedClient isOpen ∧
      w.execute sharedClient (bare "BEGIN") = (some (.ok r), w₁) ∧
      (∀ e w₂, World.run sharedClient work w₁ = (some (.error e), w₂) →
        ∃ r w₃, w₂.execute sharedClient (bare "ROLLBACK") = (some (.ok r), w₃)) ∧
      isOpen w₁.state = true ∧
      World.run sharedClient (within work) w = (some (.error (.validation "boom")), after) ∧
      isOpen after.state = false := by
  intro w work
  obtain ⟨r, w₁, begun, hopen⟩ := execute_begin_shared (w := w) rfl
  have rolledBack : ∀ e w₂, World.run sharedClient work w₁ = (some (.error e), w₂) →
      ∃ r w₃, w₂.execute sharedClient (bare "ROLLBACK") = (some (.ok r), w₃) := by
    rintro e w₂ ⟨⟩
    exact execute_rollback_shared hopen
  obtain ⟨r', w₃, hrollback⟩ := execute_rollback_shared hopen
  -- the work fails, so its transaction is rolled back
  have ended : World.run sharedClient (within work) w =
      (some (.error (.validation "boom")), w₃) := by
    rw [run_within_of_begun begun rfl, run_settle, closing_error, hrollback]
    rfl
  obtain ⟨-, hiff⟩ := isOpen_within_iff keepsTransactions_shared begun rolledBack
  refine ⟨r, w₁, w₃, keepsTransactions_shared, begun, rolledBack, hopen, ended, ?_⟩
  rw [← Bool.not_eq_true, hiff _ _ ended]
  rintro ⟨a, w₂, e, hwork, -⟩
  cases hwork

/-- While another connection reads the database, the `COMMIT` of work that has succeeded is refused,
the transaction stays open, and no other one can begin. -/
theorem isOpen_within_shared :
    let w : World Connection := ⟨Connection.initial true, 0, []⟩
    let work : Script Unit := pure ()
    let after := World.run sharedClient (within work) w
    KeepsTransactions sharedClient isOpen ∧
      (∃ r w₁, w.execute sharedClient (bare "BEGIN") = (some (.ok r), w₁)) ∧
      (∀ w : World Connection, isOpen w.state = true →
        ∃ r w', w.execute sharedClient (bare "ROLLBACK") = (some (.ok r), w')) ∧
      after.1 = some (.error (.sqlite "database is locked")) ∧ isOpen after.2.state = true ∧
      (World.run sharedClient Transaction.start after.2).1 =
        some (.error (.sqlite "cannot start a transaction within a transaction")) := by
  intro w work after
  obtain ⟨r, w₁, begun, hopen⟩ := execute_begin_shared (w := w) rfl
  have hafter : after = World.run sharedClient (settle (.ok ())) w₁ := run_within_of_begun begun rfl
  rw [run_settle, closing_ok, execute_commit_shared] at hafter
  rw [hafter]
  refine ⟨keepsTransactions_shared, ⟨r, w₁, begun⟩, fun _ => execute_rollback_shared, rfl,
    hopen, ?_⟩
  have hagain := execute_begin_of_isOpen (w := { w₁ with trace := w₁.trace ++
    [.logged (bare "COMMIT"), .called (.execute (bare "COMMIT"))] }) hopen
  rw [← execute_shared (by decide)] at hagain
  exact congrArg Prod.fst (run_start_of_error hagain)

end Embedded.Connection

end RecordSql
