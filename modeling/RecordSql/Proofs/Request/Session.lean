import RecordSql.Proofs.Request.Run
import RecordSql.Proofs.Script.Log
import RecordSql.Proofs.Transaction.Settlement

/-!
# The log of a session

A session is what a caller does with a connection: requests, and the statements and the work of
transactions, each decided by the answers to what came before.  The calls of each step are known from the
answers (`Session.calls`): a request calls once, unless it has no statement or is an insert with a key to look
up, and a transaction has the calls of its work between its own.  A session makes these calls and logs each
of them, and that is all of what it asks of the client (`logged_session`).

That nothing is forgotten or repeated is a fact about every single operation: its script logs each statement
directly before it calls it, and nothing else (`Request.isLogged_script`, `Session.isLogged_script`).
-/

namespace RecordSql

open Transaction

variable {α ρ σ : Type} [Record ρ]

/-! ### Requests -/

namespace Request

/-- The call behind the insert of a record that was executed: a generated key that was not reported is
looked up. -/
def lookupBehind (c : Config) (r : ρ) (answer : Option (Except Fault ExecResult)) : List Call :=
  match primaryKey? (Record.row r c.dialect), answer with
  | some key, some (.ok ⟨_, none⟩) =>
    if key.noInsert then
      [.queryFirst (Statement.keyLookup c.dialect (Record.table r) (Record.row r c.dialect) key)]
    else []
  | _, _ => []

/-- The calls behind the first one of a request, if that is an execution with the given answer. -/
def callsBehind (c : Config) (answer : Option (Except Fault ExecResult)) :
    Request ρ α → List Call
  | insert r => lookupBehind c r answer
  | _ => []

/-- The calls of a request. -/
def calls (client : Client σ) (c : Config) (limits : Limits) (q : Request ρ α) (w : World σ) :
    List Call :=
  match q.statement c with
  | .error _ => []
  | .ok st =>
    match q.call c st with
    | .execute st =>
      .execute st ::
        q.callsBehind c (w.call client (.execute st) (client.execute st) limits).1
    | call => [call]

variable (client : Client σ) (c : Config) (limits : Limits)

/-- The call behind an insert is the lookup, if there is one. -/
theorem callsIn_resolveKey (r : ρ) (result : ExecResult) (w : World σ) :
    World.callsIn client (Operation.resolveKey c limits (Record.table r) (Record.row r c.dialect)
      result) w = lookupBehind c r (some (.ok result)) := by
  obtain ⟨touched, reported⟩ := result
  unfold Operation.resolveKey lookupBehind
  cases primaryKey? (Record.row r c.dialect) with
  | none => rfl
  | some key =>
    dsimp only
    -- a supplied key is known, and a generated one is looked up unless it was reported
    cases hgenerated : key.noInsert with
    | false =>
      cases reported with
      | some n => rfl
      | none => exact (if_neg (Bool.eq_false_iff.mp hgenerated)).symm
    | true =>
      cases reported with
      | some n => rfl
      | none =>
        dsimp only
        rw [Bool.not_true, if_neg Bool.false_ne_true, if_pos hgenerated]
        exact (World.callsIn_bind_of_nil client (fun _ _ => rfl) (fetchFirst
          (Statement.keyLookup c.dialect (Record.table r) (Record.row r c.dialect) key) limits) w).trans
            (World.callsIn_fetchFirst client _ limits w)

theorem lookupBehind_error (r : ρ) (e : Fault) : lookupBehind c r (some (.error e)) = [] := by
  unfold lookupBehind
  cases primaryKey? (Record.row r c.dialect) <;> rfl

theorem lookupBehind_none (r : ρ) : lookupBehind c r none = [] := by
  unfold lookupBehind
  cases primaryKey? (Record.row r c.dialect) <;> rfl

/-- An insert calls once, and once more if it has to look its key up. -/
theorem callsIn_insert (r : ρ) (w : World σ) :
    World.callsIn client (Operation.insert c limits r) w = (insert r).calls client c limits w := by
  simp only [calls, statement, call, callsBehind, Operation.insert]
  cases Statement.insert c.dialect (Record.table r) (Record.row r c.dialect) with
  | error e => rfl
  | ok st =>
    cases returningKey? c.dialect (Record.row r c.dialect) with
    | some key =>
      -- the answer holds the key
      refine (World.callsIn_bind_of_nil client (fun found w => ?_) (fetchFirst st limits) w).trans
        (World.callsIn_fetchFirst client st limits w)
      split <;> rfl
    | none =>
      refine (World.callsIn_bind client (send st limits) _ w).trans ?_
      rw [World.callsIn_send, World.run_send]
      show _ = Call.execute st :: lookupBehind c r
        (w.call client (.execute st) (client.execute st) limits).1
      rcases w.call client (.execute st) (client.execute st) limits with ⟨_ | _ | result, w₁⟩
      · rw [lookupBehind_none]
        rfl
      · rw [lookupBehind_error]
        rfl
      · exact congrArg _ (callsIn_resolveKey client c limits r result w₁)

/-- What comes of the answer to a statement makes no further calls. -/
theorem callsIn_send_bind {f : ExecResult → Script α} (h : ∀ a w, World.callsIn client (f a) w = [])
    (st : Statement) (w : World σ) :
    World.callsIn client (send st limits >>= f) w = [.execute st] :=
  (World.callsIn_bind_of_nil client h _ w).trans (World.callsIn_send client st limits w)

/-- A request makes its calls and no others. -/
theorem callsIn_script (q : Request ρ α) (w : World σ) :
    World.callsIn client (q.script c limits) w = q.calls client c limits w := by
  cases q with
  | insert r => exact callsIn_insert client c limits r w
  | createTable r =>
    simp only [calls, statement, script, call, callsBehind, Operation.createTable]
    cases Statement.createTable (Record.table r) (Record.row r c.dialect) with
    | error e => rfl
    | ok sql => exact callsIn_send_bind client limits (fun _ _ => rfl) ⟨sql, []⟩ w
  | dropTable r =>
    simp only [calls, statement, script, call, callsBehind, Operation.dropTable]
    cases Statement.dropTable (Record.table r) with
    | error e => rfl
    | ok sql => exact callsIn_send_bind client limits (fun _ _ => rfl) ⟨sql, []⟩ w
  -- a record that is not found is reported without a further call
  | get r =>
    simp only [calls, statement, script, call, Operation.get]
    cases Statement.get c.dialect (Record.table r) (Record.row r c.dialect) with
    | error e => rfl
    | ok st =>
      refine (World.callsIn_bind_of_nil client (fun found w => ?_) _ w).trans
        ((World.callsIn_attempt client (fetchFirst st limits) w).trans
          (World.callsIn_fetchFirst client st limits w))
      rcases found with _ | _ | _ <;> rfl
  -- neither is there one behind an update that has touched nothing
  | update r =>
    simp only [calls, statement, script, call, callsBehind, Operation.update]
    cases Statement.update c.dialect (Record.table r) (Record.row r c.dialect) with
    | error e => rfl
    | ok st =>
      refine callsIn_send_bind client limits (fun result w => ?_) st w
      split <;> rfl
  | delete r =>
    simp only [calls, statement, script, call, callsBehind, Operation.delete]
    cases Statement.delete c.dialect (Record.table r) (Record.row r c.dialect) with
    | error e => rfl
    | ok st => exact callsIn_send_bind client limits (fun _ _ => rfl) st w
  | select r clause args =>
    simp only [calls, statement, script, call, Operation.select]
    cases Operation.selectStatement c r clause args with
    | error e => rfl
    | ok st =>
      exact (World.callsIn_bind_of_nil client (fun _ _ => rfl) (fetch st limits) w).trans
        (World.callsIn_fetch client st limits w)
  | executeNamed sql args =>
    simp only [calls, statement, script, call, callsBehind, Operation.executeNamed]
    cases Statement.named c.dialect c.sigil sql args with
    | error e => rfl
    | ok st => exact callsIn_send_bind client limits (fun _ _ => rfl) st w
  | queryNamed sql args =>
    simp only [calls, statement, script, call, Operation.queryNamed]
    cases Statement.named c.dialect c.sigil sql args with
    | error e => rfl
    | ok st => exact World.callsIn_fetch client st limits w

/-- Looking up a key logs the lookup. -/
theorem isLogged_resolveKey (table : String) (row : List Column) (result : ExecResult) :
    (Operation.resolveKey c limits table row result).IsLogged := by
  unfold Operation.resolveKey
  split
  · exact .done _
  · split
    · exact .done _
    · split
      · exact .done _
      · exact (Script.IsLogged.fetchFirst _ limits).bind fun _ => .done _

/-- **Every operation logs each of its statements directly before it calls it.** -/
theorem isLogged_script (q : Request ρ α) : (q.script c limits).IsLogged := by
  cases q with
  | createTable r | dropTable r | delete r | executeNamed sql args =>
    exact .ofExcept_bind fun st _ => (Script.IsLogged.send _ limits).bind fun _ => .done _
  | insert r =>
    refine .ofExcept_bind fun st _ => ?_
    split
    · refine (Script.IsLogged.fetchFirst st limits).bind fun returned => ?_
      split <;> exact .done _
    · exact (Script.IsLogged.send st limits).bind (isLogged_resolveKey c limits _ _)
  | get r =>
    show (Operation.get c limits r).IsLogged
    unfold Operation.get
    split
    · exact .done _
    · refine (Script.IsLogged.fetchFirst _ limits).attempt.bind fun found => ?_
      rcases found with _ | _ | _ <;> exact .done _
  | update r =>
    refine .ofExcept_bind fun st _ => (Script.IsLogged.send st limits).bind fun result => ?_
    split <;> exact .done _
  | select r clause args =>
    exact .ofExcept_bind fun st _ => (Script.IsLogged.fetch st limits).bind fun _ => .done _
  | queryNamed sql args => exact .ofExcept_bind fun st _ => .fetch st limits

end Request

/-! ### Transactions -/

namespace Transaction

theorem isLogged_bare (sql : String) :
    (do let _ ← send (bare sql) .none : Script Unit).IsLogged :=
  (Script.IsLogged.send _ .none).bind fun _ => .done _

theorem isLogged_settle (outcome : Except Fault α) : (settle outcome).IsLogged := by
  cases outcome with
  | ok a => exact (isLogged_bare "COMMIT").bind fun _ => .done _
  | error e =>
    refine (isLogged_bare "ROLLBACK").attempt.bind fun answer => ?_
    cases answer <;> exact .done _

/-- A transaction logs what its work logs, and its own statements. -/
theorem isLogged_within {work : Script α} (h : work.IsLogged) : (within work).IsLogged :=
  (isLogged_bare "BEGIN").bind fun _ => h.attempt.bind isLogged_settle

end Transaction

/-! ### Sessions -/

/-- What a caller does with a connection, with a result of type `α`: steps one after the other, each decided
by the answers so far. -/
inductive Session (ρ : Type) : Type → Type 1 where
  | done {α : Type} (result : Except Fault α) : Session ρ α
  /-- A request of a handle with the given configuration. -/
  | request {α β : Type} (c : Config) (limits : Limits) (q : Request ρ β)
      (next : Except Fault β → Session ρ α) : Session ρ α
  /-- Opens a transaction, which a later step settles. -/
  | start {α : Type} (next : Except Fault Unit → Session ρ α) : Session ρ α
  | commit {α : Type} (next : Except Fault Unit → Session ρ α) : Session ρ α
  | rollback {α : Type} (next : Except Fault Unit → Session ρ α) : Session ρ α
  /-- Does some work inside a transaction, which is settled by the outcome. -/
  | within {α β : Type} (work : Session ρ β) (next : Except Fault β → Session ρ α) : Session ρ α

namespace Session

/-- What a session does. -/
def script {α : Type} : Session ρ α → Script α
  | done result => .done result
  | request c limits q next => (q.script c limits).andThen fun r => (next r).script
  | start next => Transaction.start.andThen fun r => (next r).script
  | commit next => Transaction.commit.andThen fun r => (next r).script
  | rollback next => Transaction.rollback.andThen fun r => (next r).script
  | within work next => (Transaction.within work.script).andThen fun r => (next r).script

/-- The calls of a session. -/
def calls {α : Type} (client : Client σ) : Session ρ α → World σ → List Call
  | done _, _ => []
  | request c limits q next, w =>
    q.calls client c limits w ++
      World.callsAfter (fun r w => (next r).calls client w) (World.run client (q.script c limits) w)
  | start next, w =>
    .execute (bare "BEGIN") ::
      World.callsAfter (fun r w => (next r).calls client w) (World.run client Transaction.start w)
  | commit next, w =>
    .execute (bare "COMMIT") ::
      World.callsAfter (fun r w => (next r).calls client w) (World.run client Transaction.commit w)
  | rollback next, w =>
    .execute (bare "ROLLBACK") ::
      World.callsAfter (fun r w => (next r).calls client w) (World.run client Transaction.rollback w)
  | within work next, w =>
    .execute (bare "BEGIN") ::
      (match w.execute client (bare "BEGIN") with
      | (some (.ok _), w₁) =>
        work.calls client w₁ ++
          World.callsAfter (fun outcome _ => [.execute (closing outcome)])
            (World.run client work.script w₁)
      | _ => []) ++
      World.callsAfter (fun r w => (next r).calls client w)
        (World.run client (Transaction.within work.script) w)

/-- A session makes its calls and no others. -/
theorem callsIn_script (client : Client σ) (s : Session ρ α) (w : World σ) :
    World.callsIn client s.script w = s.calls client w := by
  induction s generalizing w with
  | done result => rfl
  | request c limits q next ih =>
    rw [script, World.callsIn_andThen, Request.callsIn_script, calls]
    simp only [ih]
  | start next ih =>
    have hstart : World.callsIn client Transaction.start w = _ := callsIn_bare client _ w
    rw [script, World.callsIn_andThen, hstart, calls]
    simp only [ih, List.singleton_append]
  | commit next ih =>
    have hcommit : World.callsIn client Transaction.commit w = _ := callsIn_bare client _ w
    rw [script, World.callsIn_andThen, hcommit, calls]
    simp only [ih, List.singleton_append]
  | rollback next ih =>
    have hrollback : World.callsIn client Transaction.rollback w = _ := callsIn_bare client _ w
    rw [script, World.callsIn_andThen, hrollback, calls]
    simp only [ih, List.singleton_append]
  -- the work makes its own calls, by the induction hypothesis for it
  | within work next ihWork ih =>
    rw [script, World.callsIn_andThen, callsIn_within]
    simp only [ihWork, ih]
    rfl

/-- **A session logs each of its statements directly before it calls it**, and nothing else. -/
theorem isLogged_script (s : Session ρ α) : s.script.IsLogged := by
  induction s with
  | done result => exact .done result
  | request c limits q next ih => exact (Request.isLogged_script c limits q).andThen ih
  | start next ih => exact (isLogged_bare "BEGIN").andThen ih
  | commit next ih => exact (isLogged_bare "COMMIT").andThen ih
  | rollback next ih => exact (isLogged_bare "ROLLBACK").andThen ih
  | within work next ihWork ih => exact (isLogged_within ihWork).andThen ih

/-- **The log of a session is the exact trace of its calls.**  The log lists the statements of the calls
of the steps, each once and in order; when a call is made, the log holds the earlier calls and this one;
and the client is asked for nothing else, so that a client which takes these calls in the same way gives
the same session. -/
theorem logged_session (client : Client σ) (s : Session ρ α) (w : World σ) :
    ∃ events, (World.run client s.script w).2.trace = w.trace ++ events ∧
      callsOf events = s.calls client w ∧
      loggedOf events = (s.calls client w).map (·.statement) ∧
      (∀ earlier call later, events = earlier ++ .called call :: later →
        loggedOf earlier = (callsOf earlier).map (·.statement) ++ [call.statement]) ∧
      ∀ other : Client σ, other.interrupt = client.interrupt →
        (∀ call ∈ s.calls client w, call.TakenAlike client other) →
        World.run other s.script w = World.run client s.script w := by
  obtain ⟨events, htrace, hrecords⟩ := World.exists_records_run client s.isLogged_script w
  rw [callsIn_script] at hrecords
  refine ⟨events, htrace, hrecords.callsOf_eq, hrecords.loggedOf_eq, ?_, ?_⟩
  · intro earlier call later split
    exact hrecords.loggedOf_before split
  · intro other interrupt alike
    rw [← callsIn_script] at alike
    exact World.run_congr interrupt alike

/-- An insert inside a transaction: the lookup of its key is logged behind it, before the client is
asked for it, and a client that drops tables in another way gives the same session. -/
theorem logged_session_insert :
    let r : Entry := ⟨"person",
      [⟨⟨.int .i64, false⟩, .int .i64 ⟨0, by decide⟩, some ⟨"id", fun _ => some .generatedKey⟩⟩,
        ⟨⟨.text, false⟩, .text "Ada", some ⟨"name", fun _ => none⟩⟩]⟩
    let steps : Session Entry Unit :=
      .start fun _ => .request default .none (.insert r) fun _ => .commit .done
    let w : World Replay := ⟨⟨[.ok ⟨0, none⟩, .ok ⟨1, none⟩],
      [.ok [⟨["id"], [.int .i64 ⟨7, by decide⟩]⟩]], 0, [], 0⟩, 0, []⟩
    let insertion : Statement := ⟨"INSERT INTO person (name) VALUES (?)", [.text "Ada"]⟩
    let lookup : Statement :=
      ⟨"SELECT id FROM person WHERE name=? ORDER BY id DESC", [.text "Ada"]⟩
    let earlier : List Event := [.logged (bare "BEGIN"), .called (.execute (bare "BEGIN")),
      .logged insertion, .called (.execute insertion), .logged lookup]
    let later : List Event := [.logged (bare "COMMIT"), .called (.execute (bare "COMMIT"))]
    let drop : Statement := ⟨"DROP TABLE person", []⟩
    let other : Client Replay := { Replay.client with
      execute := fun st => Replay.client.execute (if st = drop then bare "ROLLBACK" else st) }
    (World.run Replay.client steps.script w).2.trace =
        earlier ++ .called (.queryFirst lookup) :: later ∧
      loggedOf (World.run Replay.client steps.script w).2.trace =
        [bare "BEGIN", insertion, lookup, bare "COMMIT"] ∧
      loggedOf earlier = (callsOf earlier).map (·.statement) ++ [lookup] ∧
      other.interrupt = Replay.client.interrupt ∧
      (∀ call ∈ steps.calls Replay.client w, call.TakenAlike Replay.client other) ∧
      World.run other steps.script w = World.run Replay.client steps.script w := by
  intro r steps w insertion lookup earlier later drop other
  have htrace : (World.run Replay.client steps.script w).2.trace =
    earlier ++ .called (.queryFirst lookup) :: later := by decide +kernel
  have hcalls : steps.calls Replay.client w = [.execute (bare "BEGIN"), .execute insertion,
    .queryFirst lookup, .execute (bare "COMMIT")] := by decide +kernel
  -- the other client differs in a statement that this session never sends
  have alike : ∀ call ∈ steps.calls Replay.client w, call.TakenAlike Replay.client other := by
    rw [hcalls]
    simp only [List.forall_mem_cons]
    exact ⟨rfl, rfl, rfl, rfl, fun _ h => absurd h List.not_mem_nil⟩
  obtain ⟨events, hevents, -, hlogged, hbefore, hother⟩ := logged_session Replay.client steps w
  have htrace' : events = earlier ++ .called (.queryFirst lookup) :: later := by
    rw [htrace] at hevents
    exact hevents.symm
  refine ⟨htrace, ?_, hbefore earlier (.queryFirst lookup) later htrace', rfl, alike,
    hother other rfl alike⟩
  rw [htrace, ← htrace', hlogged, hcalls]
  rfl

end Session

end RecordSql
