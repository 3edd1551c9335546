import RecordSql.Fault

/-!
# Results that may be faults

What is built in steps succeeds if each of the steps does (`bind_eq_ok_iff`), and the fault of steps
is that of the first one that has a fault (`fault?_bind`).
-/

namespace RecordSql

/-! ### Steps that may fail -/

/-- Two steps succeed if the first one does and the second one does with its result. -/
theorem bind_eq_ok_iff {ε α β : Type} {x : Except ε α} {f : α → Except ε β} {b : β} :
    x >>= f = .ok b ↔ ∃ a, x = .ok a ∧ f a = .ok b := by
  cases x with
  | ok a =>
    refine ⟨fun h => ⟨a, rfl, h⟩, ?_⟩
    rintro ⟨_, ⟨⟩, h⟩
    exact h
  | error e =>
    refine iff_of_false (fun h => by cases h) ?_
    rintro ⟨_, ⟨⟩, _⟩

/-- A step whose result is changed succeeds if the step does. -/
theorem map_eq_ok_iff {ε α β : Type} {x : Except ε α} {f : α → β} {b : β} :
    x.map f = .ok b ↔ ∃ a, x = .ok a ∧ f a = b := by
  cases x <;> simp [Except.map]

theorem toOption_eq_some_iff {ε α : Type} {x : Except ε α} {a : α} :
    x.toOption = some a ↔ x = .ok a := by
  cases x <;> simp [Except.toOption]

/-- What a list is mapped to is told by what its elements are mapped to. -/
theorem eq_map_of_mapM {ε α β : Type} {f : α → Except ε β} {g : α → β}
    (h : ∀ a b, f a = .ok b → b = g a) {as : List α} {bs : List β} (hbs : as.mapM f = .ok bs) :
    bs = as.map g := by
  induction as generalizing bs with
  | nil =>
    cases hbs
    rfl
  | cons a as ih =>
    rw [List.mapM_cons] at hbs
    obtain ⟨b, hb, hbs⟩ := bind_eq_ok_iff.mp hbs
    obtain ⟨rest, hrest, hbs⟩ := bind_eq_ok_iff.mp hbs
    cases hbs
    rw [List.map_cons, h a b hb, ih hrest]

/-! ### Faults of a result -/

/-- The fault of a result, if it is none. -/
def fault? {α : Type} : Except Fault α → Option Fault
  | .ok _ => none
  | .error e => some e

section Fault

variable {α β : Type}

@[simp] theorem fault?_ok (a : α) : fault? (.ok a) = none := rfl

@[simp] theorem fault?_pure (a : α) : fault? (pure a) = none := rfl

@[simp] theorem fault?_error (e : Fault) : fault? (.error e : Except Fault α) = some e := rfl

@[simp] theorem fault?_error_bind (e : Fault) (f : α → Except Fault β) :
    fault? (.error e >>= f) = some e := rfl

theorem fault?_eq_some_iff {x : Except Fault α} {e : Fault} : fault? x = some e ↔ x = .error e := by
  cases x <;> simp

@[simp] theorem fault?_map (f : α → β) (x : Except Fault α) : fault? (x.map f) = fault? x := by
  cases x <;> rfl

/-- A check has the fault that it looks for. -/
theorem fault?_ite (p : Prop) [Decidable p] (e : Fault) (a : α) :
    fault? (if p then .error e else .ok a) = if p then some e else none := by
  split <;> rfl

/-- Of two steps the first fault counts. -/
theorem fault?_bind {x : Except Fault α} {f : α → Except Fault β} {o : Option Fault}
    (h : ∀ a, fault? (f a) = o) : fault? (x >>= f) = (fault? x <|> o) := by
  cases x with
  | ok a => exact h a
  | error e => rfl

@[simp] theorem fault?_mapped (f : α → β) (x : Except Fault α) : fault? (f <$> x) = fault? x :=
  fault?_map f x

end Fault

end RecordSql
