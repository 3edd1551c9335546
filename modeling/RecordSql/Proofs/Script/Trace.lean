import RecordSql.Script
import RecordSql.Proofs.Deadline

/-!
# The calls of a run

`callsOf` picks the calls out of a trace.  One call adds itself to them (`callsOf_call`), and the
run of two scripts one after the other is the run of the second from where the first one ends
(`run_andThen`), so the calls of an operation are read off its statements.  A run that hangs stays where it
is: what would follow it is never run (`run_bind_of_hung`).

Which calls a script makes depends on the answers: `callsIn` follows the script through them, and
the trace of a run grows by exactly these calls (`callsOf_run`).  A run never takes back what is in
the trace (`exists_trace_run`), and a call without limits adds its statement and itself to it and
nothing else (`trace_call`).
-/

namespace RecordSql

/-- The calls that were handed to the client, in order. -/
def callsOf (trace : List Event) : List Call :=
  trace.filterMap fun
    | .called call => some call
    | _ => none

theorem callsOf_append (trace events : List Event) :
    callsOf (trace ++ events) = callsOf trace ++ callsOf events :=
  List.filterMap_append

theorem callsOf_replicate_interrupted (n : Nat) : callsOf (List.replicate n .interrupted) = [] := by
  rw [callsOf, List.filterMap_replicate_of_none rfl]

theorem callsOf_called (call : Call) (n : Nat) :
    callsOf (.called call :: List.replicate n .interrupted) = [call] := by
  show call :: callsOf (List.replicate n .interrupted) = [call]
  rw [callsOf_replicate_interrupted]

namespace World

variable {σ α β γ : Type} (client : Client σ)

/-! ### Going on from a run -/

@[simp] theorem resume_some (go : Except Fault α → World σ → Option (Except Fault β) × World σ)
    (result : Except Fault α) (w : World σ) : resume go (some result, w) = go result w := rfl

/-- Going on twice is going on with both. -/
theorem resume_resume (go : Except Fault α → World σ → Option (Except Fault β) × World σ)
    (more : Except Fault β → World σ → Option (Except Fault γ) × World σ)
    (ended : Option (Except Fault α) × World σ) :
    resume more (resume go ended) = resume (fun r w => resume more (go r w)) ended := by
  obtain ⟨_ | result, w⟩ := ended <;> rfl

/-- A script that goes on is run in two parts. -/
theorem run_andThen (s : Script α) (f : Except Fault α → Script β) (w : World σ) :
    run client (s.andThen f) w = resume (fun r w => run client (f r) w) (run client s w) := by
  induction s generalizing w with
  | done result => rfl
  | log st next ih => exact ih _
  | execute st limits next ih | query st limits next ih | queryFirst st limits next ih =>
    simp only [Script.andThen, run, resume_resume, ih]

section Bind

variable {s : Script α} {f : α → Script β} {w w' : World σ}

theorem run_bind_of_ok {a : α} (h : run client s w = (some (.ok a), w')) :
    run client (s >>= f) w = run client (f a) w' := by
  show run client (s.andThen _) w = _
  rw [run_andThen, h, resume_some]

theorem run_bind_of_error {e : Fault} (h : run client s w = (some (.error e), w')) :
    run client (s >>= f) w = (some (.error e), w') := by
  show run client (s.andThen _) w = _
  rw [run_andThen, h]
  rfl

/-- Nothing follows a run that hangs. -/
theorem run_bind_of_hung (h : run client s w = (none, w')) :
    run client (s >>= f) w = (none, w') := by
  show run client (s.andThen _) w = _
  rw [run_andThen, h]
  rfl

end Bind

/-- The fault of a script that is attempted is a part of its result, and nothing else changes. -/
theorem run_attempt (s : Script α) (w : World σ) :
    run client s.attempt w = ((run client s w).1.map .ok, (run client s w).2) := by
  rw [Script.attempt, run_andThen]
  rcases run client s w with ⟨_ | result, w'⟩ <;> rfl

/-! ### Statements that are logged and sent -/

@[simp] theorem resume_done (ended : Option (Except Fault α) × World σ) :
    resume (fun r w => run client (.done r) w) ended = ended := by
  obtain ⟨_ | result, w⟩ := ended <;> rfl

/-- Sending a statement logs it and calls it. -/
theorem run_send (st : Statement) (limits : Limits) (w : World σ) :
    run client (send st limits) w = w.call client (.execute st) (client.execute st) limits :=
  resume_done client _

theorem run_fetchFirst (st : Statement) (limits : Limits) (w : World σ) :
    run client (fetchFirst st limits) w =
      w.call client (.queryFirst st) (client.queryFirst st) limits :=
  resume_done client _

/-! ### Calls -/

theorem callsOf_perform (call : Call) (p : Pending σ α) (limits : Limits) (w : World σ) :
    callsOf (w.perform client call p limits).2.trace = callsOf w.trace ++ [call] := by
  rw [perform, callsOf_append, callsOf_called]

theorem callsOf_log (st : Statement) (w : World σ) : callsOf (w.log st).trace = callsOf w.trace := by
  rw [log, callsOf_append]
  exact List.append_nil _

/-- Whatever its limits make of a call, it is handed to the client once. -/
theorem callsOf_call (call : Call) (p : Pending σ α) (limits : Limits) (w : World σ) :
    callsOf (w.call client call p limits).2.trace = callsOf w.trace ++ [call] := by
  rw [World.call, callsOf_perform, callsOf_log]

/-- The calls that follow a run: none if it hangs. -/
def callsAfter (go : Except Fault α → World σ → List Call) :
    Option (Except Fault α) × World σ → List Call
  | (some result, w) => go result w
  | (none, _) => []

/-- The calls that a script makes when it is run in a world, in order. -/
def callsIn : Script α → World σ → List Call
  | .done _, _ => []
  | .log st next, w => callsIn next (w.log st)
  | .execute st limits next, w =>
    .execute st :: callsAfter (fun answer w => callsIn (next answer) w)
      (w.perform client (.execute st) (client.execute st) limits)
  | .query st limits next, w =>
    .query st :: callsAfter (fun answer w => callsIn (next answer) w)
      (w.perform client (.query st) (client.query st) limits)
  | .queryFirst st limits next, w =>
    .queryFirst st :: callsAfter (fun answer w => callsIn (next answer) w)
      (w.perform client (.queryFirst st) (client.queryFirst st) limits)

/-- What follows two runs one after the other. -/
theorem callsAfter_append (go : Except Fault α → World σ → List Call)
    (run : Except Fault α → World σ → Option (Except Fault β) × World σ)
    (more : Except Fault β → World σ → List Call) (ended : Option (Except Fault α) × World σ) :
    callsAfter (fun r w => go r w ++ callsAfter more (run r w)) ended =
      callsAfter go ended ++ callsAfter more (resume run ended) := by
  obtain ⟨_ | result, w⟩ := ended <;> rfl

/-- The calls of a script that goes on are those of its two parts. -/
theorem callsIn_andThen (s : Script α) (f : Except Fault α → Script β) (w : World σ) :
    callsIn client (s.andThen f) w =
      callsIn client s w ++ callsAfter (fun r w => callsIn client (f r) w) (run client s w) := by
  induction s generalizing w with
  | done result => rfl
  | log st next ih => exact ih _
  | execute st limits next ih | query st limits next ih | queryFirst st limits next ih =>
    simp only [Script.andThen, callsIn, run, ih, callsAfter_append, List.cons_append]

/-- What follows a script that fails or hangs makes no calls. -/
theorem callsIn_bind (s : Script α) (f : α → Script β) (w : World σ) :
    callsIn client (s >>= f) w = callsIn client s w ++
      match run client s w with
      | (some (.ok a), w') => callsIn client (f a) w'
      | _ => [] := by
  show callsIn client (s.andThen _) w = _
  rw [callsIn_andThen]
  rcases run client s w with ⟨_ | _ | _, _⟩ <;> rfl

theorem callsIn_bind_of_nil {f : α → Script β} (h : ∀ a w, callsIn client (f a) w = [])
    (s : Script α) (w : World σ) : callsIn client (s >>= f) w = callsIn client s w := by
  rw [callsIn_bind]
  split
  · rw [h, List.append_nil]
  · exact List.append_nil _

theorem callsIn_attempt (s : Script α) (w : World σ) :
    callsIn client s.attempt w = callsIn client s w := by
  rw [Script.attempt, callsIn_andThen]
  rcases run client s w with ⟨_ | _, _⟩ <;> exact List.append_nil _

theorem callsIn_send (st : Statement) (limits : Limits) (w : World σ) :
    callsIn client (send st limits) w = [.execute st] := by
  show Call.execute st :: callsAfter (fun _ _ => []) _ = _
  rcases (w.log st).perform client (.execute st) (client.execute st) limits with ⟨_ | _, _⟩ <;> rfl

theorem callsIn_fetch (st : Statement) (limits : Limits) (w : World σ) :
    callsIn client (fetch st limits) w = [.query st] := by
  show Call.query st :: callsAfter (fun _ _ => []) _ = _
  rcases (w.log st).perform client (.query st) (client.query st) limits with ⟨_ | _, _⟩ <;> rfl

theorem callsIn_fetchFirst (st : Statement) (limits : Limits) (w : World σ) :
    callsIn client (fetchFirst st limits) w = [.queryFirst st] := by
  show Call.queryFirst st :: callsAfter (fun _ _ => []) _ = _
  rcases (w.log st).perform client (.queryFirst st) (client.queryFirst st) limits with
    ⟨_ | _, _⟩ <;> rfl

/-- If every run that may follow adds its calls to the trace, so does what follows a run. -/
theorem callsOf_resume {go : Except Fault α → World σ → Option (Except Fault β) × World σ}
    {calls : Except Fault α → World σ → List Call}
    (h : ∀ r w, callsOf (go r w).2.trace = callsOf w.trace ++ calls r w)
    (ended : Option (Except Fault α) × World σ) :
    callsOf (resume go ended).2.trace = callsOf ended.2.trace ++ callsAfter calls ended := by
  obtain ⟨_ | result, w⟩ := ended
  · exact (List.append_nil _).symm
  · exact h result w

/-- A run hands the calls of its script to the client, and no others. -/
theorem callsOf_run (s : Script α) (w : World σ) :
    callsOf (run client s w).2.trace = callsOf w.trace ++ callsIn client s w := by
  induction s generalizing w with
  | done result => exact (List.append_nil _).symm
  | log st next ih =>
    show callsOf (run client next (w.log st)).2.trace = _
    rw [ih, callsOf_log]
    rfl
  | execute st limits next ih | query st limits next ih | queryFirst st limits next ih =>
    rw [run, callsOf_resume ih, callsOf_perform, callsIn, List.append_assoc, List.singleton_append]

/-! ### The trace -/

/-- Runs that only add to the trace still do so behind another one. -/
theorem exists_trace_resume {go : Except Fault α → World σ → Option (Except Fault β) × World σ}
    (grows : ∀ r w, ∃ events, (go r w).2.trace = w.trace ++ events)
    (ended : Option (Except Fault α) × World σ) :
    ∃ events, (resume go ended).2.trace = ended.2.trace ++ events := by
  obtain ⟨_ | result, w⟩ := ended
  · exact ⟨[], (List.append_nil _).symm⟩
  · exact grows result w

/-- A call and what follows it add to the trace, the call first. -/
theorem exists_trace_perform (call : Call) (p : Pending σ α) (limits : Limits)
    {go : Except Fault α → World σ → Option (Except Fault β) × World σ}
    (grows : ∀ r w, ∃ events, (go r w).2.trace = w.trace ++ events) (w : World σ) :
    ∃ events, (resume go (w.perform client call p limits)).2.trace =
      w.trace ++ .called call :: events := by
  obtain ⟨events, hevents⟩ := exists_trace_resume grows (w.perform client call p limits)
  rw [hevents, perform, List.append_assoc]
  exact ⟨_, rfl⟩

/-- A run only adds to the trace. -/
theorem exists_trace_run (s : Script α) (w : World σ) :
    ∃ events, (run client s w).2.trace = w.trace ++ events := by
  induction s generalizing w with
  | done result => exact ⟨[], (List.append_nil _).symm⟩
  | log st next ih =>
    obtain ⟨events, hevents⟩ := ih (w.log st)
    exact ⟨.logged st :: events, hevents.trans (List.append_assoc _ _ _)⟩
  | execute st limits next ih | query st limits next ih | queryFirst st limits next ih =>
    obtain ⟨events, hevents⟩ := exists_trace_perform client _ _ limits ih w
    exact ⟨_, hevents⟩

end World

/-! ### Calls without limits -/

section Unlimited

variable {α σ : Type}

/-- Nothing interrupts a call without limits. -/
theorem Pending.interrupts_run (p : Pending σ α) (interrupt : σ → σ) (state : σ) (clock : Nat) :
    (p.run interrupt .none state clock).interrupts = 0 := by
  unfold Pending.run
  dsimp only
  split <;> exact (watch_unlimited _).2

theorem World.trace_perform (client : Client σ) (call : Call) (p : Pending σ α) (w : World σ) :
    (w.perform client call p .none).2.trace = w.trace ++ [.called call] := by
  rw [World.perform, Pending.interrupts_run]
  rfl

/-- Without limits, a call adds its log line and itself to the trace. -/
theorem World.trace_call (client : Client σ) (call : Call) (p : Pending σ α) (w : World σ) :
    (w.call client call p .none).2.trace = w.trace ++ [.logged call.statement, .called call] := by
  rw [World.call, World.trace_perform, World.log, List.append_assoc]
  rfl

end Unlimited

/-! ### Calls that are answered -/

section Answered

variable {σ α : Type}

/-- The first poll decides if the answer is there. -/
theorem guarded_of_answer {p : Poll α} {a : α} (h : p.answer = some a) (rest : List (Poll α)) :
    guarded .none false (p :: rest) = ⟨.answered a, 0, true, 0⟩ := by
  simp [guarded, watch, Limits.none, h]

/-- Without limits a poll at which there is no answer only lets time go by. -/
theorem guarded_of_no_answer {p : Poll α} (h : p.answer = none) (rest : List (Poll α)) :
    guarded .none false (p :: rest) = (guarded .none false rest).later := by
  simp [guarded, watch, Limits.none, h]

/-- A call without limits takes the time until its answer. -/
theorem Pending.run_of_duration {p : Pending σ α} {state : σ} {d : Nat}
    (h : p.duration (p.start (p.submit state)) = some d) (interrupt : σ → σ) (clock : Nat) :
    p.run interrupt .none state clock =
      ⟨some (p.finish (p.start (p.submit state))).1, (p.finish (p.start (p.submit state))).2,
        clock + d, 0⟩ := by
  unfold Pending.run
  dsimp only
  generalize p.start (p.submit state) = started at h ⊢
  have hschedule : p.schedule started clock .none = ⟨clock, none, some (clock + d), none⟩ := by
    unfold Pending.schedule
    rw [h]
    rfl
  have hmoments : (p.schedule started clock .none).moments = [⟨clock, false⟩, ⟨clock + d, false⟩] := by
    rw [hschedule]
    rfl
  -- the answer is there at the second poll, and at the first one if it takes no time
  have hanswer (m : Moment) : ((p.schedule started clock .none).poll (p.finish started) m).answer =
      if clock + d ≤ m.time then some (p.finish started) else none := by
    rw [hschedule]
    simp [Schedule.poll]
  have hunlimited : Limits.none.token.any (·.isCancelled clock) = false := rfl
  rw [hmoments, List.map_cons, List.map_cons, List.map_nil, hunlimited]
  rcases Nat.eq_zero_or_pos d with rfl | hd
  · rw [guarded_of_answer ((hanswer _).trans (if_pos (Nat.le_refl _)))]
    rfl
  · rw [guarded_of_no_answer ((hanswer _).trans (if_neg (by dsimp only; omega))),
      guarded_of_answer ((hanswer _).trans (if_pos (Nat.le_refl _)))]
    rfl

/-- Without limits, a call takes the time it needs and ends with its answer. -/
theorem World.perform_of_duration {p : Pending σ α} {w : World σ} {d : Nat}
    (h : p.duration (p.start (p.submit w.state)) = some d) (client : Client σ) (call : Call) :
    w.perform client call p .none =
      (some (p.finish (p.start (p.submit w.state))).1,
        ⟨(p.finish (p.start (p.submit w.state))).2, w.clock + d, w.trace ++ [.called call]⟩) := by
  rw [World.perform, Pending.run_of_duration h]
  rfl

/-- A call that is answered finishes from the state in which it has started. -/
theorem World.call_of_duration {p : Pending σ α} {w : World σ} {d : Nat}
    (h : p.duration (p.start (p.submit w.state)) = some d) (client : Client σ) (call : Call) :
    w.call client call p .none =
      (some (p.finish (p.start (p.submit w.state))).1,
        ⟨(p.finish (p.start (p.submit w.state))).2, w.clock + d,
          w.trace ++ [.logged call.statement, .called call]⟩) := by
  have hlogged : p.duration (p.start (p.submit (w.log call.statement).state)) = some d := h
  rw [World.call, World.perform_of_duration hlogged]
  show (_, World.mk _ _ (_ ++ [_] ++ [_])) = _
  rw [List.append_assoc]
  rfl

end Answered

end RecordSql
