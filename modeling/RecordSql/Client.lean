import RecordSql.FetchedRow
import RecordSql.Limits
import RecordSql.Statement

/-!
# Clients

A client runs statements on a connection, whose state is a value of a type `σ`.  A call is not answered
at once: it has a start, at which it is polled for the first time and the connection takes the statement;
a duration, after which the answer is there; and a finish, which yields the answer.  A call that is given up
after its start never finishes.  A client may also act as soon as it is called, before the first poll;
a call that is given up unpolled has done only that.

A call without an answer, and without limits that end it, is waited for in vain: it has no result, and
whoever has made it goes no further.

Time is counted in milliseconds and moves on to the next moment at which something is due.  Moments that
fall together are taken in the order in which polls look at them, and a token that is cancelled at
some moment shows at the polls after it.
-/

namespace RecordSql

/-- The outcome of a statement that returns no rows: the number of rows it changed, and the key of the
row it inserted if the connection reports one. -/
structure ExecResult where
  rowsAffected : Nat
  lastInsertId : Option (Ranged .i64)
deriving DecidableEq, Repr

/-- A call that a client has accepted. -/
structure Pending (σ α : Type) where
  /-- The connection after the call has started. -/
  start : σ → σ
  /-- The time until the answer, in milliseconds, or `none` if there never is one. -/
  duration : σ → Option Nat
  /-- The answer, and the connection after it. -/
  finish : σ → Except Fault α × σ
  /-- The connection once it has been called, before the first poll. -/
  submit : σ → σ := id

/-- The same call with its answer changed by `f`. -/
def Pending.map {σ α β : Type} (f : α → β) (p : Pending σ α) : Pending σ β where
  start := p.start
  duration := p.duration
  finish s :=
    let (result, s) := p.finish s
    (result.map f, s)
  submit := p.submit

/-- The calls of a connection. -/
structure Client (σ : Type) where
  /-- Runs a statement that returns no rows. -/
  execute : Statement → Pending σ ExecResult
  /-- Runs a query. -/
  query : Statement → Pending σ (List FetchedRow)
  /-- Runs a query for its first row. -/
  queryFirst : Statement → Pending σ (Option FetchedRow) := fun st => (query st).map List.head?
  /-- Asks the connection to give up what it is running. -/
  interrupt : σ → σ := id

/-- A moment at which a call is polled: a time, and whether the token's cancellation at that time has
already been seen to. -/
structure Moment where
  time : Nat
  afterToken : Bool
deriving DecidableEq, Repr

/-- Whether the moment `a` does not come after the moment `b`. -/
def Moment.notAfter (a b : Moment) : Bool :=
  a.time < b.time || (a.time == b.time && (!a.afterToken || b.afterToken))

/-- Puts `m` into its place in ascending moments. -/
def Moment.insert (m : Moment) : List Moment → List Moment
  | [] => [m]
  | n :: ns => if m.notAfter n then m :: n :: ns else n :: Moment.insert m ns

/-- What is due for a call: its deadline, its answer, and the cancellation of its token. -/
structure Schedule where
  start : Nat
  deadline : Option Nat
  ready : Option Nat
  cancel : Option Nat
deriving DecidableEq, Repr

namespace Schedule

/-- The moments at which a call is polled: at its start, and whenever something is due. -/
def moments (s : Schedule) : List Moment :=
  let due := (s.deadline.toList ++ s.ready.toList).map fun t => (⟨t, false⟩ : Moment)
  let cancels := (s.cancel.toList.filter (s.start ≤ ·)).map fun t => (⟨t, true⟩ : Moment)
  ⟨s.start, false⟩ :: (due ++ cancels).foldr Moment.insert []

/-- What a call sees at a moment. -/
def poll {α : Type} (s : Schedule) (answer : α) (m : Moment) : Poll α where
  cancelled := s.cancel.any fun t => t < m.time || (t == m.time && m.afterToken)
  elapsed := s.deadline.any (· ≤ m.time)
  answer := if s.ready.any (· ≤ m.time) then some answer else none

end Schedule

/-- What has become of a call: what it answered, or `none` if it is waited for in vain; the connection and
the time after it, and how often the connection was told to interrupt. -/
structure Ended (σ α : Type) where
  result : Option (Except Fault α)
  state : σ
  clock : Nat
  interrupts : Nat

/-- What is due for a call that starts at time `clock` from the state `started`. -/
def Pending.schedule {σ α : Type} (p : Pending σ α) (started : σ) (clock : Nat)
    (limits : Limits) : Schedule where
  start := clock
  deadline := limits.timeout.map fun d => clock + d.ceilMilliseconds
  ready := (p.duration started).map (clock + ·)
  cancel := limits.token.bind Token.time?

/-- Runs a call under limits from the given state and time. -/
def Pending.run {σ α : Type} (p : Pending σ α) (interrupt : σ → σ) (limits : Limits)
    (state : σ) (clock : Nat) : Ended σ α :=
  let called := p.submit state
  let started := p.start called
  let schedule := p.schedule started clock limits
  let moments := schedule.moments
  let decision := guarded limits (limits.token.any (·.isCancelled clock))
    (moments.map (schedule.poll (p.finish started)))
  let now := (moments[decision.waited]?.map (·.time)).getD clock
  let left := Nat.repeat interrupt decision.interrupts (if decision.asked then started else called)
  match decision.outcome with
  | .answered (result, finished) => ⟨some result, finished, now, decision.interrupts⟩
  | .cancelled => ⟨some (.error .cancelled), left, now, decision.interrupts⟩
  | .timedOut limit => ⟨some (.error (.timeout limit)), left, now, decision.interrupts⟩
  | .pending => ⟨none, left, now, decision.interrupts⟩

end RecordSql
