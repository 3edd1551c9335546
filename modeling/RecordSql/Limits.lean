import RecordSql.Fault

/-!
# Deadlines and cancellation

A statement may run under limits: a timeout, a token that its caller can cancel, or both.  Waiting for
it is a sequence of polls.  At each poll the token is looked at first, then the deadline, and only then
the statement itself is asked; the first of them that is ready decides, and what is decided is never
revised.  The statement starts to run when it is asked for the first time.

A decision against a statement asks the connection to interrupt it.  A token that is cancelled before
the first poll is different: the statement is given up without being asked, and nothing is interrupted,
because nothing is running.

Time is counted in milliseconds.
-/

namespace RecordSql

/-- The moment at which a token is cancelled. -/
inductive Token where
  | never
  /-- It is cancelled already. -/
  | before
  /-- At the given time, after everything else that is due then. -/
  | atTime (time : Nat)
deriving DecidableEq, Repr

/-- Whether a token is cancelled when everything due before `now` is done. -/
def Token.isCancelled (now : Nat) : Token → Bool
  | never => false
  | before => true
  | atTime time => time < now

/-- The moment a token is cancelled. -/
def Token.time? : Token → Option Nat
  | atTime time => some time
  | _ => none

/-- The limits of a statement. -/
structure Limits where
  timeout : Option Duration
  token : Option Token
deriving DecidableEq, Repr

/-- No limits. -/
def Limits.none : Limits := ⟨.none, .none⟩

/-- What a poll sees: whether the token is cancelled, whether the deadline has passed, and the answer
of the statement if it is ready. -/
structure Poll (α : Type) where
  cancelled : Bool
  elapsed : Bool
  answer : Option α
deriving DecidableEq, Repr

/-- What the polls have decided. -/
inductive Outcome (α : Type) where
  | answered (a : α)
  | cancelled
  | timedOut (limit : Duration)
  /-- Nothing yet. -/
  | pending
deriving DecidableEq, Repr

/-- A decision: its outcome, the number of polls that went by before the deciding one, whether the
statement was asked at all, and how often the connection was told to interrupt. -/
structure Decision (α : Type) where
  outcome : Outcome α
  waited : Nat
  asked : Bool
  interrupts : Nat
deriving DecidableEq, Repr

/-- The decision when one more poll, at which the statement was asked, comes first. -/
def Decision.later {α : Type} (d : Decision α) : Decision α :=
  { d with waited := d.waited + 1, asked := true }

/-- Waits for a statement poll by poll. -/
def watch {α : Type} (timeout : Option Duration) (hasToken : Bool) : List (Poll α) → Decision α
  | [] => ⟨.pending, 0, false, 0⟩
  | p :: rest =>
    if hasToken && p.cancelled then ⟨.cancelled, 0, false, 1⟩
    else match timeout, p.elapsed, p.answer with
      | some limit, true, _ => ⟨.timedOut limit, 0, false, 1⟩
      | _, _, some a => ⟨.answered a, 0, true, 0⟩
      | _, _, none => (watch timeout hasToken rest).later

/-- Waits for a statement under limits.  `cancelled` tells whether the token is cancelled already. -/
def guarded {α : Type} (l : Limits) (cancelled : Bool) (polls : List (Poll α)) : Decision α :=
  if l.token.isSome && cancelled then ⟨.cancelled, 0, false, 0⟩
  else watch l.timeout l.token.isSome polls

end RecordSql
