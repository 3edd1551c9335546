import RecordSql.Client.Replay
import RecordSql.Proofs.Script.Trace
import RecordSql.Transaction

/-!
# How a transaction ends

Whatever the work of a transaction does, and whatever the client makes of its statements, the
transaction that has begun ends with exactly one statement of its own (`run_within`): `COMMIT`
behind work that has succeeded and `ROLLBACK` behind work that has failed, which is `closing`.  The
`verdict` on the whole is made of the outcome of the work and of the answer to that statement, and
no fault gets lost in it.  Only work that hangs is not settled, and a transaction hangs if one of its own
statements does.
-/

namespace RecordSql

/-- Executes a statement without limits. -/
def World.execute {σ : Type} (client : Client σ) (st : Statement) (w : World σ) :
    Option (Except Fault ExecResult) × World σ :=
  w.call client (.execute st) (client.execute st) .none

namespace Transaction

variable {σ α : Type} (client : Client σ)

/-- The statement that ends a transaction whose work has the given outcome. -/
def closing : Except Fault α → Statement
  | .ok _ => bare "COMMIT"
  | .error _ => bare "ROLLBACK"

@[simp] theorem closing_ok (a : α) : closing (.ok a) = bare "COMMIT" := rfl

@[simp] theorem closing_error (e : Fault) :
    closing (.error e : Except Fault α) = bare "ROLLBACK" := rfl

/-- What a transaction answers with: the outcome of its work, and what has become of the statement
that ends it. -/
def verdict : Except Fault α → Except Fault ExecResult → Except Fault α
  | .ok a, .ok _ => .ok a
  | .ok _, .error e => .error e
  | .error e, .ok _ => .error e
  | .error e, .error r => .error (.other (e.message ++ " (rollback failed: " ++ r.message ++ ")"))

/-! ### The steps of a transaction -/

/-- A statement of the transaction itself answers with nothing but its success. -/
theorem run_bare (st : Statement) (w : World σ) :
    World.run client (send st .none >>= fun _ => pure ()) w =
      ((w.execute client st).1.map (Except.map fun _ => ()), (w.execute client st).2) := by
  have hsend : World.run client (send st .none) w = w.execute client st :=
    World.run_send client st .none w
  rcases hanswer : w.execute client st with ⟨_ | _ | r, w'⟩ <;> rw [hanswer] at hsend
  · exact World.run_bind_of_hung client hsend
  · exact World.run_bind_of_error client hsend
  · exact World.run_bind_of_ok client hsend

theorem callsIn_bare (st : Statement) (w : World σ) :
    World.callsIn client (send st .none >>= fun _ => pure ()) w = [.execute st] :=
  (World.callsIn_bind_of_nil client (fun _ _ => rfl) (send st .none) w).trans
    (World.callsIn_send client st .none w)

section Steps

variable {client} {w w' : World σ}

theorem run_start_of_ok {r : ExecResult}
    (h : w.execute client (bare "BEGIN") = (some (.ok r), w')) :
    World.run client start w = (some (.ok ()), w') := by
  unfold start
  rw [run_bare, h]
  rfl

theorem run_start_of_error {e : Fault}
    (h : w.execute client (bare "BEGIN") = (some (.error e), w')) :
    World.run client start w = (some (.error e), w') := by
  unfold start
  rw [run_bare, h]
  rfl

theorem run_start_of_hung (h : w.execute client (bare "BEGIN") = (none, w')) :
    World.run client start w = (none, w') := by
  unfold start
  rw [run_bare, h]
  rfl

/-- The end of a transaction gives the verdict. -/
theorem run_settle (outcome : Except Fault α) (w : World σ) :
    World.run client (settle outcome) w =
      ((w.execute client (closing outcome)).1.map (verdict outcome),
        (w.execute client (closing outcome)).2) := by
  have hbare := run_bare client (closing outcome) w
  cases outcome with
  | ok a =>
    show World.run client (commit >>= fun _ => pure a) w = _
    rcases hanswer : w.execute client (closing (.ok a)) with ⟨_ | _ | r, w'⟩ <;> rw [hanswer] at hbare
    · exact World.run_bind_of_hung client hbare
    · exact World.run_bind_of_error client hbare
    · exact World.run_bind_of_ok client hbare
  | error e =>
    -- the rollback is attempted, so its fault does not end the script
    have hattempt := World.run_attempt client rollback w
    show World.run client (rollback.attempt >>= _) w = _
    change World.run client rollback w = _ at hbare
    rw [hbare] at hattempt
    generalize w.execute client (closing (.error e : Except Fault α)) = answered at hattempt ⊢
    rcases answered with ⟨_ | _ | r, w'⟩
    · exact World.run_bind_of_hung client hattempt
    · exact World.run_bind_of_ok client hattempt
    · exact World.run_bind_of_ok client hattempt

/-- The end of a transaction is a single statement. -/
theorem callsIn_settle (outcome : Except Fault α) (w : World σ) :
    World.callsIn client (settle outcome) w = [.execute (closing outcome)] := by
  cases outcome with
  | ok a =>
    exact (World.callsIn_bind_of_nil client (fun _ _ => rfl) commit w).trans
      (callsIn_bare client (bare "COMMIT") w)
  | error e =>
    refine (World.callsIn_bind_of_nil client (fun answer _ => ?_) rollback.attempt w).trans
      ((World.callsIn_attempt client rollback w).trans (callsIn_bare client (bare "ROLLBACK") w))
    cases answer <;> rfl

end Steps

/-! ### The whole transaction -/

section Within

variable {client} {work : Script α} {w w₁ w₂ : World σ}

/-- Work is not begun if its transaction is not. -/
theorem run_within_of_refused {e : Fault}
    (refused : w.execute client (bare "BEGIN") = (some (.error e), w₁)) :
    World.run client (within work) w = (some (.error e), w₁) :=
  World.run_bind_of_error client (run_start_of_error refused)

/-- Work is not begun either if the start of its transaction is waited for in vain. -/
theorem run_within_of_hung (hung : w.execute client (bare "BEGIN") = (none, w₁)) :
    World.run client (within work) w = (none, w₁) :=
  World.run_bind_of_hung client (run_start_of_hung hung)

/-- Behind a transaction that has begun, its work is settled by its outcome. -/
theorem run_within_of_begun {r : ExecResult} {outcome : Except Fault α}
    (begun : w.execute client (bare "BEGIN") = (some (.ok r), w₁))
    (worked : World.run client work w₁ = (some outcome, w₂)) :
    World.run client (within work) w = World.run client (settle outcome) w₂ := by
  have hattempt : World.run client work.attempt w₁ = (some (.ok outcome), w₂) := by
    rw [World.run_attempt, worked]
    rfl
  unfold within
  rw [World.run_bind_of_ok client (run_start_of_ok begun), World.run_bind_of_ok client hattempt]

/-- Work that hangs is not settled. -/
theorem run_within_of_stuck {r : ExecResult}
    (begun : w.execute client (bare "BEGIN") = (some (.ok r), w₁))
    (stuck : World.run client work w₁ = (none, w₂)) :
    World.run client (within work) w = (none, w₂) := by
  have hattempt : World.run client work.attempt w₁ = (none, w₂) := by
    rw [World.run_attempt, stuck]
    rfl
  unfold within
  rw [World.run_bind_of_ok client (run_start_of_ok begun), World.run_bind_of_hung client hattempt]

/-- The calls of a transaction are `BEGIN`, and if that has succeeded those of its work, and if that has an
outcome the statement that the outcome calls for. -/
theorem callsIn_within (work : Script α) (w : World σ) :
    World.callsIn client (within work) w = .execute (bare "BEGIN") ::
      match w.execute client (bare "BEGIN") with
      | (some (.ok _), w₁) =>
        World.callsIn client work w₁ ++
          World.callsAfter (fun outcome _ => [.execute (closing outcome)]) (World.run client work w₁)
      | _ => [] := by
  have hstart : World.callsIn client start w = [.execute (bare "BEGIN")] := callsIn_bare client _ w
  unfold within
  rw [World.callsIn_bind, hstart, List.singleton_append]
  rcases hbegun : w.execute client (bare "BEGIN") with ⟨_ | _ | r, w₁⟩
  · rw [run_start_of_hung hbegun]
  · rw [run_start_of_error hbegun]
  · rw [run_start_of_ok hbegun]
    dsimp only
    rw [World.callsIn_bind, World.callsIn_attempt, World.run_attempt]
    rcases World.run client work w₁ with ⟨_ | outcome, w₂⟩
    · rfl
    · exact congrArg _ (congrArg _ (callsIn_settle outcome w₂))

end Within

/-- A statement that is neither the first one nor one of the work is the last one. -/
theorem eq_last_of_mem {st first last : Statement} {calls : List Call} (hfirst : st ≠ first)
    (hcalls : ∀ call ∈ calls, call.statement ≠ st)
    (hmem : .execute st ∈ .execute first :: (calls ++ [.execute last])) : st = last := by
  simp only [List.mem_cons, List.mem_append, Call.execute.injEq, List.not_mem_nil, or_false] at hmem
  rcases hmem with h | h | h
  · exact absurd h hfirst
  · exact absurd rfl (hcalls _ h)
  · exact h

/-- **A transaction ends with one statement, which its verdict is about.**  If it cannot begin,
nothing more is sent.  Otherwise the statements are `BEGIN`, those of the work, and the one that the
outcome of the work calls for; unless the work itself sends one of them, `COMMIT` and `ROLLBACK` are
not both sent.  A transaction without an end is one whose `BEGIN`, whose work or whose last statement
hangs. -/
theorem run_within (work : Script α) (w : World σ) :
    let begun := w.execute client (bare "BEGIN")
    let worked := World.run client work begun.2
    let after := World.run client (within work) w
    match begun.1 with
    | none =>
      after = (none, begun.2) ∧
        callsOf after.2.trace = callsOf w.trace ++ [.execute (bare "BEGIN")]
    | some (.error e) =>
      after = (some (.error e), begun.2) ∧
        callsOf after.2.trace = callsOf w.trace ++ [.execute (bare "BEGIN")]
    | some (.ok _) =>
      match worked.1 with
      | none =>
        after = (none, worked.2) ∧
          callsOf after.2.trace = callsOf w.trace ++ .execute (bare "BEGIN") ::
            World.callsIn client work begun.2
      | some outcome =>
        let ended := worked.2.execute client (closing outcome)
        let sent := .execute (bare "BEGIN") ::
          (World.callsIn client work begun.2 ++ [.execute (closing outcome)])
        after = (ended.1.map (verdict outcome), ended.2) ∧
          callsOf after.2.trace = callsOf w.trace ++ sent ∧
          ((∀ call ∈ World.callsIn client work begun.2,
              call.statement ≠ bare "COMMIT" ∧ call.statement ≠ bare "ROLLBACK") →
            ¬ (.execute (bare "COMMIT") ∈ sent ∧ .execute (bare "ROLLBACK") ∈ sent)) := by
  intro begun worked after
  have hcalls : callsOf after.2.trace = callsOf w.trace ++ _ := World.callsOf_run client _ w
  rw [callsIn_within] at hcalls
  rcases hbegun : w.execute client (bare "BEGIN") with ⟨_ | e | r, w₁⟩ <;>
    simp only [hbegun] at hcalls <;> simp only [worked, begun, hbegun]
  · exact ⟨run_within_of_hung hbegun, hcalls⟩
  · exact ⟨run_within_of_refused hbegun, hcalls⟩
  · rcases hworked : World.run client work w₁ with ⟨_ | outcome, w₂⟩ <;>
      simp only [hworked, World.callsAfter, List.append_nil] at hcalls
    · exact ⟨run_within_of_stuck hbegun hworked, hcalls⟩
    · have hrun : after = World.run client (settle outcome) w₂ :=
        run_within_of_begun hbegun hworked
      rw [run_settle] at hrun
      refine ⟨hrun, hcalls, fun plain => ?_⟩
      rintro ⟨hcommit, hrollback⟩
      -- neither of the two can be another statement than the last one
      have hc := eq_last_of_mem (by decide) (fun call hcall => (plain call hcall).1) hcommit
      have hr := eq_last_of_mem (by decide) (fun call hcall => (plain call hcall).2) hrollback
      exact absurd (hc.trans hr.symm) (by decide)

/-- A removal that fails is rolled back, and when that fails too, both faults are reported. -/
theorem run_within_connection_lost :
    let w : World Replay := ⟨⟨[.ok ⟨0, none⟩, .error (.other "cannot delete"),
      .error (.other "connection lost")], [], 0, [], 0⟩, 0, []⟩
    let removal : Statement := ⟨"DELETE FROM t", []⟩
    let after := World.run Replay.client (within (send removal .none)) w
    after.1 = some (.error (.other "cannot delete (rollback failed: connection lost)")) ∧
      callsOf after.2.trace =
        [.execute (bare "BEGIN"), .execute removal, .execute (bare "ROLLBACK")] := by
  intro w removal after
  obtain ⟨hafter, hcalls, -⟩ := run_within Replay.client (send removal .none) w
  exact ⟨congrArg Prod.fst hafter, hcalls⟩

end Transaction

end RecordSql
