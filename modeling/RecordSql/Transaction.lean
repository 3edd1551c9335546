import RecordSql.Log
import RecordSql.Script

/-!
# Transactions

A transaction is opened by `BEGIN` and settled by one more statement: `COMMIT` when the work between
them has succeeded, `ROLLBACK` when it has failed.  Of two faults, that of the work and that of the
rollback, neither is lost: the answer names both.
-/

namespace RecordSql.Transaction

/-- A statement without values. -/
def bare (sql : String) : Statement := ⟨sql, []⟩

/-- Opens a transaction. -/
def start : Script Unit := do
  let _ ← send (bare "BEGIN") .none

/-- Makes the statements of a transaction durable. -/
def commit : Script Unit := do
  let _ ← send (bare "COMMIT") .none

/-- Discards the statements of a transaction. -/
def rollback : Script Unit := do
  let _ ← send (bare "ROLLBACK") .none

/-- What the log keeps of a transaction that is let go: no statement is sent, so it stays open. -/
def letGo : List LogEntry := [.unfinished]

/-- The fault of work that failed with `e` and could not be rolled back because of `r`. -/
def rollbackFailed (e r : Fault) : Fault :=
  .other (e.message ++ " (rollback failed: " ++ r.message ++ ")")

/-- Settles a transaction by the outcome of its work. -/
def settle {α : Type} (outcome : Except Fault α) : Script α :=
  match outcome with
  | .ok a => do
    commit
    return a
  | .error e => do
    match ← rollback.attempt with
    | .ok () => Script.fail e
    | .error r => Script.fail (rollbackFailed e r)

/-- Runs `work` inside a transaction. -/
def within {α : Type} (work : Script α) : Script α := do
  start
  let outcome ← work.attempt
  settle outcome

end RecordSql.Transaction
