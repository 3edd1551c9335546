import RecordSql.Client.Replay
import RecordSql.Proofs.Request.Defect
import RecordSql.Proofs.Script.Trace

/-!
# Running requests

A request without a defect starts with a call, and what it does next is decided by the answer; when
the answer is a fault, the request ends with it.  This is `OpensWith`, which the script of every
operation satisfies (`Request.script_cases`), whether more statements would follow or not.  A
request that has a defect sends nothing at all (`Request.run_script`).
-/

namespace RecordSql

/-! ### Scripts that open with a call -/

section Opening

variable {α σ : Type}

/-- The success or the fault of a call, if it comes to an end, and the world after it. -/
def World.tryCall (client : Client σ) (limits : Limits) (w : World σ) :
    Call → Option (Except Fault Unit) × World σ
  | .execute st =>
    (w.call client (.execute st) (client.execute st) limits).map
      (Option.map (Except.map fun _ => ())) id
  | .query st =>
    (w.call client (.query st) (client.query st) limits).map
      (Option.map (Except.map fun _ => ())) id
  | .queryFirst st =>
    (w.call client (.queryFirst st) (client.queryFirst st) limits).map
      (Option.map (Except.map fun _ => ())) id

/-- The script logs a statement, calls it, and when that fails with `e`, ends with the result
`refused e`. -/
inductive OpensWith (limits : Limits) (refused : Fault → Except Fault α) : Call → Script α → Prop
  | execute {st : Statement} {next : Except Fault ExecResult → Script α}
      (ends : ∀ e, next (.error e) = .done (refused e)) :
      OpensWith limits refused (.execute st) (.log st (.execute st limits next))
  | query {st : Statement} {next : Except Fault (List FetchedRow) → Script α}
      (ends : ∀ e, next (.error e) = .done (refused e)) :
      OpensWith limits refused (.query st) (.log st (.query st limits next))
  | queryFirst {st : Statement} {next : Except Fault (Option FetchedRow) → Script α}
      (ends : ∀ e, next (.error e) = .done (refused e)) :
      OpensWith limits refused (.queryFirst st) (.log st (.queryFirst st limits next))

namespace World

variable (client : Client σ)

theorem trace_tryCall (call : Call) (w : World σ) :
    (w.tryCall client .none call).2.trace =
      w.trace ++ [.logged call.statement, .called call] := by
  cases call <;> exact trace_call client _ _ w

section Opens

variable {client} {limits : Limits} {refused : Fault → Except Fault α} {call : Call} {s : Script α}

variable (client) in
/-- The log line and the call that a script opens with are the first things that happen. -/
theorem exists_trace_run_of_opensWith (h : OpensWith limits refused call s) (w : World σ) :
    ∃ events, (run client s w).2.trace =
      w.trace ++ .logged call.statement :: .called call :: events := by
  have hcall {β : Type} (call : Call) (p : Pending σ β) (next : Except Fault β → Script α) :
      ∃ events, (resume (fun answer w => run client (next answer) w)
        (w.call client call p limits)).2.trace =
          w.trace ++ .logged call.statement :: .called call :: events := by
    obtain ⟨events, hevents⟩ := exists_trace_perform client call p limits
      (fun answer => exists_trace_run client (next answer)) (w.log call.statement)
    exact ⟨events, hevents.trans (List.append_assoc _ _ _)⟩
  cases h with
  | execute ends => exact hcall (.execute _) _ _
  | query ends => exact hcall (.query _) _ _
  | queryFirst ends => exact hcall (.queryFirst _) _ _

/-- A request ends as its first call does if that fails. -/
theorem run_of_opensWith {e : Fault} {w w' : World σ} (h : OpensWith limits refused call s)
    (fails : w.tryCall client limits call = (some (.error e), w')) :
    run client s w = (some (refused e), w') := by
  -- only a call with an outcome can fail
  have hends {β : Type} {answered : Option (Except Fault β) × World σ}
      {next : Except Fault β → Script α} (ends : ∀ e, next (.error e) = .done (refused e))
      (fails : answered.map (Option.map (Except.map fun _ => ())) id = (some (.error e), w')) :
      resume (fun answer w => run client (next answer) w) answered = (some (refused e), w') := by
    obtain ⟨_ | _ | _, after⟩ := answered
    · cases fails
    · cases fails
      rw [resume_some, ends]
      rfl
    · cases fails
  unfold tryCall at fails
  cases h with
  | execute ends => exact hends ends fails
  | query ends => exact hends ends fails
  | queryFirst ends => exact hends ends fails

end Opens

end World

end Opening

namespace Request

variable {α ρ σ : Type} [Record ρ]

/-- The operation of a request. -/
def script (c : Config) (limits : Limits) : Request ρ α → Script α
  | createTable r => Operation.createTable c limits r
  | dropTable r => Operation.dropTable c limits r
  | insert r => Operation.insert c limits r
  | get r => Operation.get c limits r
  | update r => Operation.update c limits r
  | delete r => Operation.delete c limits r
  | select r clause args => Operation.select c limits r clause args
  | executeNamed sql args => Operation.executeNamed c limits sql args
  | queryNamed sql args => Operation.queryNamed c limits sql args

/-- The answer to a request that ends with a fault.  A record that was to be read into is as it was.
-/
def refused : Request ρ α → Fault → Except Fault α
  | get r, e => .ok (r, .error e)
  | createTable _, e | dropTable _, e | insert _, e | update _, e | delete _, e
  | select _ _ _, e | executeNamed _ _, e | queryNamed _ _, e => .error e

/-- How the first statement of a request is handed to the client. -/
def call (c : Config) (st : Statement) : Request ρ α → Call
  | createTable _ | dropTable _ | update _ | delete _ | executeNamed _ _ => .execute st
  | insert r => if (returningKey? c.dialect (Record.row r c.dialect)).isSome then .queryFirst st
      else .execute st
  | get _ => .queryFirst st
  | select _ _ _ | queryNamed _ _ => .query st

theorem statement_call (c : Config) (st : Statement) (q : Request ρ α) :
    (q.call c st).statement = st := by
  cases q with
  | insert r =>
    show (if (returningKey? c.dialect (Record.row r c.dialect)).isSome then Call.queryFirst st
      else .execute st).statement = st
    split <;> rfl
  | _ => rfl

/-- A request without a statement does nothing, and any other one starts with its statement. -/
theorem script_cases (c : Config) (limits : Limits) (q : Request ρ α) :
    (∃ e, q.statement c = .error e ∧ q.script c limits = .done (q.refused e)) ∨
      ∃ st, q.statement c = .ok st ∧
        OpensWith limits q.refused (q.call c st) (q.script c limits) := by
  -- every operation builds its statement first, and goes on from there or ends
  cases q with
  | createTable r =>
    simp only [statement, script, call, Operation.createTable]
    cases Statement.createTable (Record.table r) (Record.row r c.dialect) with
    | error e => exact .inl ⟨e, rfl, rfl⟩
    | ok sql => exact .inr ⟨⟨sql, []⟩, rfl, .execute fun e => rfl⟩
  | dropTable r =>
    simp only [statement, script, call, Operation.dropTable]
    cases Statement.dropTable (Record.table r) with
    | error e => exact .inl ⟨e, rfl, rfl⟩
    | ok sql => exact .inr ⟨⟨sql, []⟩, rfl, .execute fun e => rfl⟩
  | insert r =>
    simp only [statement, script, call, Operation.insert]
    cases Statement.insert c.dialect (Record.table r) (Record.row r c.dialect) with
    | error e => exact .inl ⟨e, rfl, rfl⟩
    | ok st =>
      refine .inr ⟨st, rfl, ?_⟩
      cases returningKey? c.dialect (Record.row r c.dialect) with
      | some key => exact .queryFirst fun e => rfl
      | none => exact .execute fun e => rfl
  | get r =>
    simp only [statement, script, call, Operation.get]
    cases Statement.get c.dialect (Record.table r) (Record.row r c.dialect) with
    | error e => exact .inl ⟨e, rfl, rfl⟩
    | ok st => exact .inr ⟨st, rfl, .queryFirst fun e => rfl⟩
  | update r =>
    simp only [statement, script, call, Operation.update]
    cases Statement.update c.dialect (Record.table r) (Record.row r c.dialect) with
    | error e => exact .inl ⟨e, rfl, rfl⟩
    | ok st => exact .inr ⟨st, rfl, .execute fun e => rfl⟩
  | delete r =>
    simp only [statement, script, call, Operation.delete]
    cases Statement.delete c.dialect (Record.table r) (Record.row r c.dialect) with
    | error e => exact .inl ⟨e, rfl, rfl⟩
    | ok st => exact .inr ⟨st, rfl, .execute fun e => rfl⟩
  | select r clause args =>
    simp only [statement, script, call, Operation.select]
    cases Operation.selectStatement c r clause args with
    | error e => exact .inl ⟨e, rfl, rfl⟩
    | ok st => exact .inr ⟨st, rfl, .query fun e => rfl⟩
  | executeNamed sql args =>
    simp only [statement, script, call, Operation.executeNamed]
    cases Statement.named c.dialect c.sigil sql args with
    | error e => exact .inl ⟨e, rfl, rfl⟩
    | ok st => exact .inr ⟨st, rfl, .execute fun e => rfl⟩
  | queryNamed sql args =>
    simp only [statement, script, call, Operation.queryNamed]
    cases Statement.named c.dialect c.sigil sql args with
    | error e => exact .inl ⟨e, rfl, rfl⟩
    | ok st => exact .inr ⟨st, rfl, .query fun e => rfl⟩

/-- **Nothing is sent for a request with a defect, and nothing behind a statement that fails.** -/
theorem run_script (client : Client σ) (c : Config) (q : Request ρ α) (w : World σ) :
    let after := World.run client (q.script c .none) w
    (after.2.trace ≠ w.trace ↔ ∃ st, q.statement c = .ok st) ∧
      match q.statement c with
      | .error e => q.defect? c = some e ∧ after = (some (q.refused e), w)
      | .ok st =>
        q.defect? c = none ∧
          (∃ events, after.2.trace =
            w.trace ++ .logged st :: .called (q.call c st) :: events) ∧
          ∀ e w', w.tryCall client .none (q.call c st) = (some (.error e), w') →
            after = (some (q.refused e), w') ∧
              w'.trace = w.trace ++ [.logged st, .called (q.call c st)] := by
  intro after
  have hdefect := q.fault?_statement c
  rcases q.script_cases c .none with ⟨e, hst, hscript⟩ | ⟨st, hst, hopens⟩
  · have hafter : after = (some (q.refused e), w) := by
      show World.run client (q.script c .none) w = _
      rw [hscript]
      rfl
    simp only [hst, hafter, ← hdefect]
    simp
  · have htry := World.trace_tryCall client (q.call c st) w
    obtain ⟨events, hevents⟩ := World.exists_trace_run_of_opensWith client hopens w
    rw [statement_call] at htry hevents
    rw [hst] at hdefect ⊢
    refine ⟨⟨fun _ => ⟨st, rfl⟩, fun _ hsame => ?_⟩, hdefect.symm, ⟨events, hevents⟩, ?_⟩
    · -- the trace has grown by at least two events
      have hgrown := hevents.symm.trans hsame
      simp at hgrown
    · intro e w' fails
      rw [fails] at htry
      exact ⟨World.run_of_opensWith hopens fails, htry⟩

/-- When the insert fails, the key of its row is not looked up. -/
theorem run_script_insert_fails :
    let w : World Replay := ⟨⟨[.error (.other "disk full")], [], 0, [], 0⟩, 0, []⟩
    let r : Entry := ⟨"person",
      [⟨⟨.int .i64, false⟩, .int .i64 ⟨0, by decide⟩, some ⟨"id", fun _ => some .generatedKey⟩⟩,
        ⟨⟨.text, false⟩, .text "Ada", some ⟨"name", fun _ => none⟩⟩]⟩
    let st : Statement := ⟨"INSERT INTO person (name) VALUES (?)", [.text "Ada"]⟩
    let after := World.run Replay.client ((Request.insert r).script default .none) w
    (Request.insert r).statement default = .ok st ∧
      after.1 = some (.error (.other "disk full")) ∧
      after.2.trace = [.logged st, .called (.execute st)] := by
  intro w r st after
  have hst : (Request.insert r).statement default = .ok st := rfl
  obtain ⟨-, hrun⟩ := run_script Replay.client default (Request.insert r) w
  rw [hst] at hrun
  obtain ⟨-, -, hfails⟩ := hrun
  obtain ⟨hafter, htrace⟩ := hfails (.other "disk full") _ rfl
  refine ⟨hst, congrArg Prod.fst hafter, ?_⟩
  rw [show after.2 = _ from congrArg Prod.snd hafter]
  exact htrace

end Request

end RecordSql
