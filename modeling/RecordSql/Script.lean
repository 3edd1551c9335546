import RecordSql.Client

/-!
# Scripts

What an operation does to a connection is a `Script`: a tree of log lines and calls, in which the answer to
each call decides how to go on.  A script is a value; it touches nothing until it is run, so two operations
can be compared, put one after the other, or wrapped into a transaction before any statement is sent.

A log line is a step of its own.  Nothing makes a script log the statements that it calls; `send`, `fetch`
and `fetchFirst` do, and the operations are made of these.

Running a script keeps a trace of the log lines and of the calls, whatever the limits of a call make of it;
the requests to interrupt follow the call they belong to.  A run ends with the script's result, or hangs in a
call that is waited for in vain, and then it has none.
-/

namespace RecordSql

/-- A tree of log lines and calls with a result of type `α`. -/
inductive Script (α : Type) where
  | done (result : Except Fault α)
  | log (st : Statement) (next : Script α)
  | execute (st : Statement) (limits : Limits) (next : Except Fault ExecResult → Script α)
  | query (st : Statement) (limits : Limits) (next : Except Fault (List FetchedRow) → Script α)
  | queryFirst (st : Statement) (limits : Limits)
      (next : Except Fault (Option FetchedRow) → Script α)

namespace Script

/-- The script `s`, and after it the script that `f` makes of its result, whatever it is. -/
def andThen {α β : Type} (s : Script α) (f : Except Fault α → Script β) : Script β :=
  match s with
  | done result => f result
  | log st next => log st (next.andThen f)
  | execute st limits next => execute st limits fun r => (next r).andThen f
  | query st limits next => query st limits fun r => (next r).andThen f
  | queryFirst st limits next => queryFirst st limits fun r => (next r).andThen f

instance : Monad Script where
  pure a := done (.ok a)
  bind s f := s.andThen fun
    | .ok a => f a
    | .error e => done (.error e)

/-- The script that sends nothing and fails. -/
def fail {α : Type} (e : Fault) : Script α :=
  done (.error e)

/-- The script that sends nothing. -/
def ofExcept {α : Type} (result : Except Fault α) : Script α :=
  done result

/-- The script `s` with its fault, if any, as a part of its result. -/
def attempt {α : Type} (s : Script α) : Script (Except Fault α) :=
  s.andThen fun r => done (.ok r)

end Script

/-- Logs a statement that returns no rows, and sends it. -/
def send (st : Statement) (limits : Limits) : Script ExecResult :=
  .log st (.execute st limits .done)

/-- Logs a query, and fetches its rows. -/
def fetch (st : Statement) (limits : Limits) : Script (List FetchedRow) :=
  .log st (.query st limits .done)

/-- Logs a query, and fetches its first row. -/
def fetchFirst (st : Statement) (limits : Limits) : Script (Option FetchedRow) :=
  .log st (.queryFirst st limits .done)

/-- How a statement is handed to a client. -/
inductive Call where
  | execute (st : Statement)
  | query (st : Statement)
  | queryFirst (st : Statement)
deriving DecidableEq, Repr

/-- The statement of a call. -/
def Call.statement : Call → Statement
  | execute st | query st | queryFirst st => st

/-- What happens while a script runs. -/
inductive Event where
  /-- A statement was handed to the logger. -/
  | logged (st : Statement)
  /-- A call was handed to the client. -/
  | called (call : Call)
  /-- The connection was told to interrupt. -/
  | interrupted
deriving DecidableEq, Repr

/-- The statements that were logged, in order. -/
def loggedOf (trace : List Event) : List Statement :=
  trace.filterMap fun
    | .logged st => some st
    | _ => none

/-- A connection, the time in milliseconds, and the trace so far. -/
structure World (σ : Type) where
  state : σ
  clock : Nat
  trace : List Event

namespace World

variable {σ α : Type}

/-- Hands a statement to the logger. -/
def log (st : Statement) (w : World σ) : World σ :=
  { w with trace := w.trace ++ [.logged st] }

/-- Runs one call. -/
def perform (client : Client σ) (call : Call) (p : Pending σ α) (limits : Limits) (w : World σ) :
    Option (Except Fault α) × World σ :=
  let ended := p.run client.interrupt limits w.state w.clock
  (ended.result,
    ⟨ended.state, ended.clock,
      w.trace ++ .called call :: List.replicate ended.interrupts .interrupted⟩)

/-- Logs the statement of a call, and runs the call. -/
def call (client : Client σ) (call : Call) (p : Pending σ α) (limits : Limits) (w : World σ) :
    Option (Except Fault α) × World σ :=
  (w.log call.statement).perform client call p limits

/-- Runs one call on the client itself, beside the log and the trace. -/
def callAside (client : Client σ) (p : Pending σ α) (w : World σ) :
    Option (Except Fault α) × World σ :=
  let ended := p.run client.interrupt .none w.state w.clock
  (ended.result, { w with state := ended.state, clock := ended.clock })

/-- Goes on from where a run has ended, unless it hangs. -/
def resume {β : Type} (go : Except Fault α → World σ → Option (Except Fault β) × World σ) :
    Option (Except Fault α) × World σ → Option (Except Fault β) × World σ
  | (some result, w) => go result w
  | (none, w) => (none, w)

/-- Runs a script. -/
def run (client : Client σ) : Script α → World σ → Option (Except Fault α) × World σ
  | .done result, w => (some result, w)
  | .log st next, w => run client next (w.log st)
  | .execute st limits next, w =>
    resume (fun answer w => run client (next answer) w)
      (w.perform client (.execute st) (client.execute st) limits)
  | .query st limits next, w =>
    resume (fun answer w => run client (next answer) w)
      (w.perform client (.query st) (client.query st) limits)
  | .queryFirst st limits next, w =>
    resume (fun answer w => run client (next answer) w)
      (w.perform client (.queryFirst st) (client.queryFirst st) limits)

end World

end RecordSql
