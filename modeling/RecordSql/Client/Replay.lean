import RecordSql.Client

/-!
# Replayed answers

A client without a database: it keeps the statements it is given, waits for a while, and then takes the
next of the answers that were laid out for it.  Executions and queries have answers of their own; when
they run out, an execution changes nothing and a query finds nothing.  A call that is given up while it
waits takes no answer.
-/

namespace RecordSql

/-- Answers laid out in advance, and what has been asked of them. -/
structure Replay where
  executions : List (Except Fault ExecResult)
  queries : List (Except Fault (List FetchedRow))
  delay : Nat
  received : List Statement
  interrupts : Nat

namespace Replay

/-- Takes the next answer to an execution. -/
def takeExecution (r : Replay) : Except Fault ExecResult × Replay :=
  match r.executions with
  | [] => (.ok ⟨0, none⟩, r)
  | answer :: rest => (answer, { r with executions := rest })

/-- Takes the next answer to a query. -/
def takeQuery (r : Replay) : Except Fault (List FetchedRow) × Replay :=
  match r.queries with
  | [] => (.ok [], r)
  | answer :: rest => (answer, { r with queries := rest })

/-- A call that keeps its statement, waits, and then takes an answer. -/
def pending {α : Type} (take : Replay → Except Fault α × Replay) (st : Statement) :
    Pending Replay α where
  start r := { r with received := r.received ++ [st] }
  duration r := some r.delay
  finish := take

/-- The client that replays. -/
def client : Client Replay where
  execute := pending takeExecution
  query := pending takeQuery
  interrupt r := { r with interrupts := r.interrupts + 1 }

end Replay

end RecordSql
