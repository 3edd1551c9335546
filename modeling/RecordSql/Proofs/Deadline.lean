import RecordSql.Client

/-!
# What decides a statement under limits

A statement under limits waits for three things at once: the cancellation of its token, its deadline
and its own answer.  `Limits.Decides` says what one poll decides, in the order in which the three are
looked at, and `Limits.Ends` what becomes of the statement over a whole sequence of polls: it is given
up before the first poll, or nothing is ready at any of them, or the first poll at which something is
ready decides.  `guarded_eq_iff_ends` says that waiting computes exactly this, so a tie is never broken
in another way and a later poll never revises the first decision.

Two facts carry it.  A poll at which nothing is ready changes a decision only by the time that goes by
(`watch_append_of_not_ready`, the run lemma), and a poll at which something is ready leaves the later
ones unread (`watch_cons_of_decides`).

Nothing is assumed of the polls.  In those of a call a cancelled token stays cancelled and a deadline
stays passed, but no poll after the deciding one is read.
-/

namespace RecordSql

variable {α : Type} {l : Limits} {p : Poll α} {o : Outcome α}

/-! ### What one poll decides -/

/-- The limits have a token, and it is cancelled. -/
def Limits.Stops (l : Limits) (cancelled : Bool) : Prop :=
  l.token.isSome ∧ cancelled

/-- The limits have a timeout, and its deadline has passed. -/
def Limits.Expires (l : Limits) (elapsed : Bool) : Prop :=
  l.timeout.isSome ∧ elapsed

/-- Something that the limits wait for is ready. -/
def Limits.Ready (l : Limits) (p : Poll α) : Prop :=
  l.Stops p.cancelled ∨ l.Expires p.elapsed ∨ p.answer.isSome

instance (l : Limits) (cancelled : Bool) : Decidable (l.Stops cancelled) :=
  inferInstanceAs (Decidable (_ ∧ _))

instance (l : Limits) (elapsed : Bool) : Decidable (l.Expires elapsed) :=
  inferInstanceAs (Decidable (_ ∧ _))

instance (l : Limits) (p : Poll α) : Decidable (l.Ready p) :=
  inferInstanceAs (Decidable (_ ∨ _ ∨ _))

/-- What a poll decides: a cancelled token comes before a deadline that has passed, and that before
the answer. -/
inductive Limits.Decides (l : Limits) (p : Poll α) : Outcome α → Prop where
  | cancelled (stopped : l.Stops p.cancelled) : l.Decides p .cancelled
  | timedOut {limit : Duration} (running : ¬ l.Stops p.cancelled) (limited : l.timeout = some limit)
      (elapsed : p.elapsed) : l.Decides p (.timedOut limit)
  | answered {a : α} (running : ¬ l.Stops p.cancelled) (inTime : ¬ l.Expires p.elapsed)
      (answer : p.answer = some a) : l.Decides p (.answered a)

/-- How often an outcome interrupts the connection when a poll decides it. -/
def Outcome.interrupts : Outcome α → Nat
  | cancelled | timedOut _ => 1
  | answered _ | pending => 0

/-- Whether an outcome is the statement's own answer. -/
def Outcome.isAnswered : Outcome α → Bool
  | answered _ => true
  | cancelled | timedOut _ | pending => false

/-- A poll decides something exactly when something is ready. -/
theorem Limits.exists_decides_iff : (∃ o, l.Decides p o) ↔ l.Ready p := by
  constructor
  · rintro ⟨_, stopped | ⟨-, limited, elapsed⟩ | ⟨-, -, answer⟩⟩
    · exact .inl stopped
    · exact .inr (.inl ⟨Option.isSome_of_eq_some limited, elapsed⟩)
    · exact .inr (.inr (Option.isSome_of_eq_some answer))
  · intro ready
    -- each of the three is looked at only if the ones before it are not ready
    by_cases running : l.Stops p.cancelled
    · exact ⟨_, .cancelled running⟩
    by_cases inTime : l.Expires p.elapsed
    · obtain ⟨limit, limited⟩ := Option.isSome_iff_exists.mp inTime.1
      exact ⟨_, .timedOut running limited inTime.2⟩
    obtain ⟨a, answer⟩ := Option.isSome_iff_exists.mp
      ((ready.resolve_left running).resolve_left inTime)
    exact ⟨_, .answered running inTime answer⟩

/-! ### One step of the watch -/

/-- A poll that decides leaves the later ones unread.  The statement is asked only if the token and the
deadline let it. -/
theorem watch_cons_of_decides (h : l.Decides p o) (rest : List (Poll α)) :
    watch l.timeout l.token.isSome (p :: rest) = ⟨o, 0, o.isAnswered, o.interrupts⟩ := by
  unfold watch
  cases h with
  | cancelled stopped =>
    rw [if_pos (by simpa [Limits.Stops] using stopped)]
    rfl
  | timedOut running limited elapsed =>
    rw [if_neg (by simpa [Limits.Stops] using running), limited, elapsed]
    rfl
  | answered running inTime answer =>
    rw [if_neg (by simpa [Limits.Stops] using running), answer]
    -- without a timeout there is no deadline that could have passed
    cases htimeout : l.timeout with
    | none => rfl
    | some limit =>
      have helapsed : p.elapsed = false := by simpa [Limits.Expires, htimeout] using inTime
      rw [helapsed]
      rfl

/-- A poll at which nothing is ready asks the statement and waits for the next one. -/
theorem watch_cons_of_not_ready (h : ¬ l.Ready p) (rest : List (Poll α)) :
    watch l.timeout l.token.isSome (p :: rest) = (watch l.timeout l.token.isSome rest).later := by
  obtain ⟨running, inTime, waiting⟩ := by simpa only [Limits.Ready, not_or] using h
  have hanswer : p.answer = none := Option.not_isSome_iff_eq_none.mp waiting
  conv => lhs; unfold watch
  rw [if_neg (by simpa [Limits.Stops] using running), hanswer]
  cases htimeout : l.timeout with
  | none => rfl
  | some limit =>
    have helapsed : p.elapsed = false := by simpa [Limits.Expires, htimeout] using inTime
    rw [helapsed]

/-! ### A run of polls -/

/-- The decision when the polls `before`, at which the statement was asked, come first. -/
def Decision.delayed (d : Decision α) (before : List (Poll α)) : Decision α :=
  ⟨d.outcome, before.length + d.waited, !before.isEmpty || d.asked, d.interrupts⟩

theorem Decision.delayed_nil (d : Decision α) : d.delayed [] = d := by
  simp [delayed]

theorem Decision.later_delayed (d : Decision α) (before : List (Poll α)) (q : Poll α) :
    (d.delayed before).later = d.delayed (q :: before) := by
  simp [delayed, later, Nat.add_right_comm]

/-- Polls at which nothing is ready only let time go by. -/
theorem watch_append_of_not_ready {before : List (Poll α)} (h : ∀ q ∈ before, ¬ l.Ready q)
    (rest : List (Poll α)) :
    watch l.timeout l.token.isSome (before ++ rest) =
      (watch l.timeout l.token.isSome rest).delayed before := by
  induction before with
  | nil => exact (Decision.delayed_nil _).symm
  | cons q before ih =>
    obtain ⟨hq, hbefore⟩ := List.forall_mem_cons.mp h
    rw [List.cons_append, watch_cons_of_not_ready hq, ih hbefore, Decision.later_delayed]

/-! ### The whole wait -/

/-- What becomes of a statement under limits, from the token as the statement is handed over and from
the polls that follow. -/
inductive Limits.Ends (l : Limits) (onEntry : Bool) (polls : List (Poll α)) : Decision α → Prop where
  /-- The token is cancelled already: the statement is never asked, and nothing is interrupted. -/
  | givenUp (stopped : l.Stops onEntry) : l.Ends onEntry polls ⟨.cancelled, 0, false, 0⟩
  /-- Nothing is ready at any poll. -/
  | undecided (running : ¬ l.Stops onEntry) (waiting : ∀ q ∈ polls, ¬ l.Ready q) :
      l.Ends onEntry polls ⟨.pending, polls.length, !polls.isEmpty, 0⟩
  /-- The first poll at which something is ready decides. -/
  | decided {before after : List (Poll α)} {p : Poll α} {o : Outcome α}
      (running : ¬ l.Stops onEntry) (cut : polls = before ++ p :: after)
      (waiting : ∀ q ∈ before, ¬ l.Ready q) (first : l.Decides p o) :
      l.Ends onEntry polls
        ⟨o, before.length, !before.isEmpty || o.isAnswered, o.interrupts⟩

variable {onEntry : Bool} {polls : List (Poll α)}

/-- A call whose token is not cancelled as it is made waits for its polls. -/
theorem guarded_of_not_stops (h : ¬ l.Stops onEntry) :
    guarded l onEntry polls = watch l.timeout l.token.isSome polls :=
  if_neg (by simpa [Limits.Stops] using h)

/-- Every end is the one that waiting computes. -/
theorem Limits.Ends.guarded_eq {d : Decision α} (h : l.Ends onEntry polls d) :
    guarded l onEntry polls = d := by
  cases h with
  | givenUp stopped => exact if_pos (by simpa [Limits.Stops] using stopped)
  | undecided running waiting =>
    have hrun := watch_append_of_not_ready waiting []
    rw [List.append_nil] at hrun
    rw [guarded_of_not_stops running, hrun]
    simp only [watch, Decision.delayed, Nat.add_zero, Bool.or_false]
  | decided running cut waiting first =>
    rw [guarded_of_not_stops running, cut, watch_append_of_not_ready waiting,
      watch_cons_of_decides first]
    rfl

/-- Every statement comes to one of the ends. -/
theorem Limits.exists_ends (l : Limits) (onEntry : Bool) (polls : List (Poll α)) :
    ∃ d, l.Ends onEntry polls d := by
  by_cases running : l.Stops onEntry
  · exact ⟨_, .givenUp running⟩
  -- the polls are cut at the first one at which something is ready
  cases hfirst : polls.find? (decide <| l.Ready ·) with
  | none =>
    have waiting : ∀ q ∈ polls, ¬ l.Ready q := by simpa using List.find?_eq_none.mp hfirst
    exact ⟨_, .undecided running waiting⟩
  | some p =>
    obtain ⟨ready, before, after, cut, waiting⟩ := List.find?_eq_some_iff_append.mp hfirst
    obtain ⟨o, first⟩ := exists_decides_iff.mpr (of_decide_eq_true ready)
    exact ⟨_, .decided running cut (by simpa using waiting) first⟩

/-- Without limits only the answer is waited for. -/
theorem watch_unlimited (polls : List (Poll α)) :
    (watch none false polls).outcome = (polls.findSome? Poll.answer).elim .pending .answered ∧
      (watch none false polls).interrupts = 0 := by
  induction polls with
  | nil => exact ⟨rfl, rfl⟩
  | cons p polls ih =>
    rw [List.findSome?_cons]
    unfold watch
    cases p.answer with
    | none => exact ih
    | some a => exact ⟨rfl, rfl⟩

/-- **The first thing that is ready decides**: a statement under limits is given up at once if its
token is cancelled as it is handed over, unasked and with nothing interrupted.  Otherwise it waits for
the first poll at which something is ready, and there a cancelled token comes before a deadline that
has passed and that before the answer; the connection is interrupted once for the first two and never
for the answer.  Waiting comes to exactly this end.  Without limits the first answer is the outcome and
nothing is interrupted. -/
theorem guarded_eq_iff_ends (l : Limits) (onEntry : Bool) (polls : List (Poll α)) (d : Decision α) :
    (guarded l onEntry polls = d ↔ l.Ends onEntry polls d) ∧
      (guarded .none onEntry polls).outcome =
        (polls.findSome? Poll.answer).elim .pending .answered ∧
      (guarded .none onEntry polls).interrupts = 0 := by
  refine ⟨⟨fun h => ?_, Limits.Ends.guarded_eq⟩, watch_unlimited polls⟩
  obtain ⟨d', hends⟩ := l.exists_ends onEntry polls
  rwa [← h, hends.guarded_eq]

/-- Everything is ready at the second poll: the token wins, and the statement was asked at the first. -/
example : guarded ⟨some (.ofMilliseconds 20), some .never⟩ false
    [⟨false, false, none⟩, ⟨true, true, some 7⟩, ⟨true, true, none⟩] = ⟨.cancelled, 1, true, 1⟩ := by
  decide

/-! ### A call whose token is cancelled already -/

/-- A call whose token is cancelled as it is made fails and takes no time.  The client has been called
before the token is looked at, but it is never polled. -/
theorem Pending.run_of_isCancelled {σ : Type} {token : Token} {clock : Nat}
    (htoken : l.token = some token) (h : token.isCancelled clock) (p : Pending σ α)
    (interrupt : σ → σ) (state : σ) :
    p.run interrupt l state clock = ⟨some (.error .cancelled), p.submit state, clock, 0⟩ := by
  have hends (polls : List (Poll (Except Fault α × σ))) :
      guarded l (l.token.any (·.isCancelled clock)) polls = ⟨.cancelled, 0, false, 0⟩ :=
    Limits.Ends.guarded_eq (.givenUp ⟨by simp [htoken], by simpa [htoken] using h⟩)
  unfold Pending.run
  dsimp only
  rw [hends]
  rfl

end RecordSql
