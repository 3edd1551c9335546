import RecordSql.Embedded.Connection
import RecordSql.Proofs.Embedded.Laws
import RecordSql.Proofs.Script.Trace

/-!
# Calls on a connection

A call without limits runs its text in the library and waits for it.  If the statement ends, so does the
call: it is refused with the message of the library, or it answers with what the client makes of the
reply (`call_execute_cases`, `call_queryFirst_cases`).
-/

namespace RecordSql.Embedded

/-- The first of the rows of a reply. -/
def Reply.first? (r : Reply) : Option FetchedRow :=
  (r.rows.map fun row => ⟨r.names, row.map Cell.toValue⟩).head?

namespace ConnectionTo

variable {δ : Type} {lib : Library δ} {w : World (ConnectionTo δ)} {st : RecordSql.Statement}

/-- What the library makes of a statement. -/
def ran (lib : Library δ) (st : RecordSql.Statement) (w : World (ConnectionTo δ)) : Ran δ :=
  lib.run st.sql (st.args.map Cell.ofValue?) w.state.database

/-- The world behind a call whose statement has ended after the time `d`. -/
def worldAfter (w : World (ConnectionTo δ)) (ran : Ran δ) (d : Nat) (call : Call) :
    World (ConnectionTo δ) :=
  ⟨⟨ran.after, w.state.reportsKeys, none⟩, w.clock + d,
    w.trace ++ [.logged call.statement, .called call]⟩

/-- An execution. -/
theorem call_execute {d : Nat} (h : (ran lib st w).duration = some d) :
    w.call (client lib) (.execute st) ((client lib).execute st) .none =
      (some (((ran lib st w).result.bind
          (executed lib st.sql ⟨(ran lib st w).after, w.state.reportsKeys, none⟩)).mapError .sqlite),
        worldAfter w (ran lib st w) d (.execute st)) :=
  World.call_of_duration (p := (client lib).execute st) (w := w) h (client lib) (.execute st)

/-- A query for its first row. -/
theorem call_queryFirst {d : Nat} (h : (ran lib st w).duration = some d) :
    w.call (client lib) (.queryFirst st) ((client lib).queryFirst st) .none =
      (some (((ran lib st w).result.map Reply.first?).mapError .sqlite),
        worldAfter w (ran lib st w) d (.queryFirst st)) := by
  rw [World.call_of_duration (p := (client lib).queryFirst st) (w := w) h (client lib)
    (.queryFirst st)]
  have hanswer : ((ran lib st w).result.bind fetched |>.mapError Fault.sqlite).map List.head? =
      ((ran lib st w).result.map Reply.first?).mapError .sqlite := by
    cases (ran lib st w).result <;> rfl
  rw [← hanswer]
  rfl

variable {answered : Reply → δ → Prop}

/-- An execution that ends is refused, by the library or because it answers with rows, or has an
outcome. -/
theorem call_execute_cases (st : RecordSql.Statement) (ends : (ran lib st w).Ends answered) :
    ∃ w', w'.state.reportsKeys = w.state.reportsKeys ∧
      ((∀ reply, (ran lib st w).result = .ok reply → reply.rows ≠ []) ∧
          (∃ message, w.call (client lib) (.execute st) ((client lib).execute st) .none =
            (some (.error (.sqlite message)), w')) ∨
        ∃ reply result, answered reply w'.state.database ∧
          executed lib st.sql w'.state reply = .ok result ∧
          w.call (client lib) (.execute st) ((client lib).execute st) .none =
            (some (.ok result), w')) := by
  obtain ⟨hduration, hanswered⟩ := ends
  obtain ⟨d, hd⟩ := Option.ne_none_iff_exists'.mp hduration
  refine ⟨worldAfter w (ran lib st w) d (.execute st), rfl, ?_⟩
  rw [call_execute hd]
  cases hresult : (ran lib st w).result with
  -- the client refuses an answer with rows
  | error message => exact Or.inl ⟨fun _ h => (by cases h), message, rfl⟩
  | ok reply =>
    cases hexecuted : executed lib st.sql ⟨(ran lib st w).after, w.state.reportsKeys, none⟩ reply with
    | error message =>
      refine Or.inl ⟨?_, message, ?_⟩
      · rintro _ ⟨⟩ hrows
        rw [executed, hrows] at hexecuted
        cases hexecuted
      · rw [Except.bind, hexecuted]
        rfl
    | ok result =>
      refine Or.inr ⟨reply, result, hanswered reply hresult, hexecuted, ?_⟩
      rw [Except.bind, hexecuted]
      rfl

/-- A query that ends is refused or has a reply. -/
theorem call_queryFirst_cases (st : RecordSql.Statement) (ends : (ran lib st w).Ends answered) :
    ∃ w', (∃ message, (ran lib st w).result = .error message ∧
        w.call (client lib) (.queryFirst st) ((client lib).queryFirst st) .none =
          (some (.error (.sqlite message)), w')) ∨
      ∃ reply, answered reply w'.state.database ∧
        w.call (client lib) (.queryFirst st) ((client lib).queryFirst st) .none =
          (some (.ok reply.first?), w') := by
  obtain ⟨hduration, hanswered⟩ := ends
  obtain ⟨d, hd⟩ := Option.ne_none_iff_exists'.mp hduration
  refine ⟨worldAfter w (ran lib st w) d (.queryFirst st), ?_⟩
  rw [call_queryFirst hd]
  cases hresult : (ran lib st w).result with
  | error message => exact Or.inl ⟨message, rfl, rfl⟩
  | ok reply => exact Or.inr ⟨reply, hanswered reply hresult, rfl⟩

end ConnectionTo

end RecordSql.Embedded
