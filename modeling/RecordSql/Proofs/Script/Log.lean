import RecordSql.Proofs.Script.Trace

/-!
# The log of a run

A script may call a statement that it has not logged, or log one that it does not call.  `Script.IsLogged`
says that it does neither: every call stands directly behind the log line of its statement, and nothing else
is logged.  `send`, `fetch` and `fetchFirst` are such scripts, and so is whatever is made of such scripts by
doing one after the other (`Script.IsLogged.bind`).

The calls of the run of such a script leave `Records` in its trace: each call is logged first, then handed to
the client, and perhaps interrupted (`exists_records_run`).  So the log lists the statements of the calls,
each once and in their order, and when a call is made the log holds the statements of the calls so far and
nothing else (`Records.loggedOf_eq`, `Records.loggedOf_before`).

What is not in the log was not asked for: a run is the same with every client that takes the calls of
the log in the same way (`run_congr`).
-/

namespace RecordSql

/-! ### Scripts that log their calls -/

/-- Whether every call of a script stands directly behind the log line of its statement, whatever the
answers to the calls before it, and nothing else is logged. -/
inductive Script.IsLogged {α : Type} : Script α → Prop where
  | done (result : Except Fault α) : IsLogged (.done result)
  | execute {st : Statement} {limits : Limits} {next : Except Fault ExecResult → Script α}
      (rest : ∀ answer, IsLogged (next answer)) : IsLogged (.log st (.execute st limits next))
  | query {st : Statement} {limits : Limits} {next : Except Fault (List FetchedRow) → Script α}
      (rest : ∀ answer, IsLogged (next answer)) : IsLogged (.log st (.query st limits next))
  | queryFirst {st : Statement} {limits : Limits} {next : Except Fault (Option FetchedRow) → Script α}
      (rest : ∀ answer, IsLogged (next answer)) : IsLogged (.log st (.queryFirst st limits next))

namespace Script.IsLogged

variable {α β : Type} {s : Script α}

/-- Scripts that log their calls do so one after another. -/
theorem andThen {f : Except Fault α → Script β} (h : s.IsLogged) (hf : ∀ r, (f r).IsLogged) :
    (s.andThen f).IsLogged := by
  induction h with
  | done result => exact hf result
  | execute _ ih => exact .execute ih
  | query _ ih => exact .query ih
  | queryFirst _ ih => exact .queryFirst ih

theorem bind {f : α → Script β} (h : s.IsLogged) (hf : ∀ a, (f a).IsLogged) :
    (s >>= f).IsLogged := by
  refine h.andThen fun r => ?_
  cases r with
  | ok a => exact hf a
  | error e => exact .done _

theorem attempt (h : s.IsLogged) : s.attempt.IsLogged :=
  h.andThen fun _ => .done _

/-- A script that begins with something that is computed is logged if its rest is. -/
theorem ofExcept_bind {result : Except Fault α} {f : α → Script β}
    (hf : ∀ a, result = .ok a → (f a).IsLogged) : (Script.ofExcept result >>= f).IsLogged := by
  cases result with
  | ok a => exact hf a rfl
  | error e => exact .done _

theorem send (st : Statement) (limits : Limits) : (send st limits).IsLogged :=
  .execute .done

theorem fetch (st : Statement) (limits : Limits) : (fetch st limits).IsLogged :=
  .query .done

theorem fetchFirst (st : Statement) (limits : Limits) : (fetchFirst st limits).IsLogged :=
  .queryFirst .done

end Script.IsLogged

/-! ### Records of calls -/

/-- The events of calls one after the other, each with the interrupts behind it. -/
inductive Records : List Call → List Event → Prop where
  | nil : Records [] []
  | cons (call : Call) (interrupts : Nat) {calls : List Call} {events : List Event}
      (rest : Records calls events) :
      Records (call :: calls) (.logged call.statement :: .called call ::
        (List.replicate interrupts .interrupted ++ events))

theorem loggedOf_append (trace events : List Event) :
    loggedOf (trace ++ events) = loggedOf trace ++ loggedOf events :=
  List.filterMap_append

theorem loggedOf_replicate_interrupted (n : Nat) :
    loggedOf (List.replicate n .interrupted) = [] := by
  rw [loggedOf, List.filterMap_replicate_of_none rfl]

namespace Records

variable {calls further : List Call} {events later : List Event}

theorem append (h : Records calls events) (h' : Records further later) :
    Records (calls ++ further) (events ++ later) := by
  induction h with
  | nil => exact h'
  | cons call interrupts _ ih =>
    have := cons call interrupts ih
    rwa [← List.append_assoc] at this

theorem callsOf_eq (h : Records calls events) : callsOf events = calls := by
  induction h with
  | nil => rfl
  | @cons call interrupts calls events _ ih =>
    show call :: callsOf (List.replicate interrupts .interrupted ++ events) = _
    rw [callsOf_append, callsOf_replicate_interrupted, ih, List.nil_append]

theorem loggedOf_eq (h : Records calls events) : loggedOf events = calls.map (·.statement) := by
  induction h with
  | nil => rfl
  | @cons call interrupts calls events _ ih =>
    show call.statement :: loggedOf (List.replicate interrupts .interrupted ++ events) = _
    rw [loggedOf_append, loggedOf_replicate_interrupted, ih, List.nil_append, List.map_cons]

/-- What stands in front of a call among events that start with interrupts. -/
theorem exists_eq_replicate_append {n : Nat} {earlier : List Event} {call : Call}
    (h : List.replicate n .interrupted ++ events = earlier ++ .called call :: later) :
    ∃ earlier', earlier = List.replicate n .interrupted ++ earlier' ∧
      events = earlier' ++ .called call :: later := by
  rcases List.append_eq_append_iff.mp h with ⟨earlier', hearlier, hevents⟩ | ⟨rest, hn, hrest⟩
  · exact ⟨earlier', hearlier, hevents⟩
  · cases rest with
    | nil =>
      rw [List.append_nil] at hn
      exact ⟨[], by rw [hn, List.append_nil], hrest.symm⟩
    | cons e rest =>
      -- a call would be among the interrupts
      obtain ⟨rfl, -⟩ := List.cons.inj hrest
      have hmem : Event.called call ∈ List.replicate n .interrupted := by simp [hn]
      cases List.eq_of_mem_replicate hmem

/-- When a call is made, the log holds the calls so far: the earlier ones, and this one. -/
theorem loggedOf_before (h : Records calls events) {earlier : List Event} {call : Call}
    (split : events = earlier ++ .called call :: later) :
    loggedOf earlier = (callsOf earlier).map (·.statement) ++ [call.statement] := by
  induction h generalizing earlier with
  | nil => simp at split
  -- the call is the first one, with only its own log line in front, or stands behind the first one
  -- and its interrupts
  | cons first interrupts _ ih =>
    rcases earlier with _ | ⟨e, _ | ⟨e', earlier⟩⟩
    · cases split
    · obtain ⟨rfl, htail⟩ := List.cons.inj split
      obtain ⟨hcall, -⟩ := List.cons.inj htail
      cases hcall
      rfl
    · obtain ⟨rfl, htail⟩ := List.cons.inj split
      obtain ⟨rfl, hrest⟩ := List.cons.inj htail
      obtain ⟨earlier', rfl, hevents⟩ := exists_eq_replicate_append hrest
      show first.statement :: loggedOf (_ ++ earlier') =
        first.statement :: ((callsOf (_ ++ earlier')).map (·.statement) ++ [call.statement])
      rw [loggedOf_append, callsOf_append, loggedOf_replicate_interrupted,
        callsOf_replicate_interrupted, List.nil_append, List.nil_append, ih hevents]

end Records

/-! ### Runs -/

/-- Whether two clients take a call in the same way. -/
def Call.TakenAlike {σ : Type} (client other : Client σ) : Call → Prop
  | execute st => other.execute st = client.execute st
  | query st => other.query st = client.query st
  | queryFirst st => other.queryFirst st = client.queryFirst st

namespace World

variable {σ α : Type} (client : Client σ)

/-- A call adds one log line and itself to the trace, and the requests to interrupt. -/
theorem exists_records_call (call : Call) (p : Pending σ α) (limits : Limits) (w : World σ) :
    ∃ events, (w.call client call p limits).2.trace = w.trace ++ events ∧
      Records [call] events := by
  have hrecord := Records.cons call
    (p.run client.interrupt limits (w.log call.statement).state (w.log call.statement).clock).interrupts
    .nil
  refine ⟨_, ?_, hrecord⟩
  rw [World.call, perform, List.append_nil, log, List.append_assoc]
  rfl

/-- A call that is logged and what follows it leave their records. -/
theorem exists_records_resume {β : Type} (call : Call) (p : Pending σ β) (limits : Limits)
    {go : Except Fault β → World σ → Option (Except Fault α) × World σ}
    {calls : Except Fault β → World σ → List Call}
    (records : ∀ answer w, ∃ events, (go answer w).2.trace = w.trace ++ events ∧
      Records (calls answer w) events) (w : World σ) :
    ∃ events, (resume go (w.call client call p limits)).2.trace = w.trace ++ events ∧
      Records (call :: callsAfter calls (w.call client call p limits)) events := by
  obtain ⟨first, hfirst, hcall⟩ := exists_records_call client call p limits w
  generalize w.call client call p limits = answered at hfirst ⊢
  obtain ⟨_ | answer, w'⟩ := answered
  · -- nothing follows a call that is waited for in vain
    exact ⟨first, hfirst, hcall⟩
  · obtain ⟨rest, hrest, hrun⟩ := records answer w'
    refine ⟨first ++ rest, ?_, hcall.append hrun⟩
    rw [resume_some, hrest, ← List.append_assoc, ← hfirst]

/-- A run of a script that logs its calls leaves the records of its calls. -/
theorem exists_records_run {s : Script α} (h : s.IsLogged) (w : World σ) :
    ∃ events, (run client s w).2.trace = w.trace ++ events ∧
      Records (callsIn client s w) events := by
  induction h generalizing w with
  | done result => exact ⟨[], (List.append_nil _).symm, .nil⟩
  | @execute st limits _ _ ih =>
    exact exists_records_resume client (.execute st) _ limits ih w
  | @query st limits _ _ ih => exact exists_records_resume client (.query st) _ limits ih w
  | @queryFirst st limits _ _ ih =>
    exact exists_records_resume client (.queryFirst st) _ limits ih w

section Alike

variable {client} {other : Client σ} (interrupt : other.interrupt = client.interrupt)
include interrupt

/-- The client takes no part in a call but by the call itself. -/
theorem perform_congr (call : Call) (p : Pending σ α) (limits : Limits) (w : World σ) :
    w.perform other call p limits = w.perform client call p limits := by
  rw [perform, perform, interrupt]

omit interrupt in
/-- What follows a run is the same if it is the same for the calls that follow. -/
theorem resume_congr {β : Type} {go go' : Except Fault β → World σ → Option (Except Fault α) × World σ}
    {calls : Except Fault β → World σ → List Call} {alike : Call → Prop}
    (h : ∀ r w, (∀ call ∈ calls r w, alike call) → go' r w = go r w)
    {ended : Option (Except Fault β) × World σ} (hended : ∀ call ∈ callsAfter calls ended, alike call) :
    resume go' ended = resume go ended := by
  obtain ⟨_ | result, w⟩ := ended
  · rfl
  · exact h result w hended

/-- Clients that differ in other calls than those of a run only cannot be told apart by it. -/
theorem run_congr {s : Script α} {w : World σ}
    (alike : ∀ call ∈ callsIn client s w, call.TakenAlike client other) :
    run other s w = run client s w := by
  induction s generalizing w with
  | done result => rfl
  | log st next ih => exact ih alike
  | execute st limits next ih | query st limits next ih | queryFirst st limits next ih =>
    rw [callsIn, List.forall_mem_cons] at alike
    rw [run, run, perform_congr interrupt, alike.1]
    exact resume_congr (fun _ _ => ih _) alike.2

end Alike

end World

end RecordSql
