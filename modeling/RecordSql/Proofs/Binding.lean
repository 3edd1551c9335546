import RecordSql.Template

/-!
# Binding arguments to parameters

`lookup?` finds the last argument of a name (`lookup?_eq_getLast?`), and `bindArguments` succeeds
exactly if it finds one for every parameter, with the values it finds (`bindArguments_eq_ok_iff`).
Otherwise it names the first parameter without an argument (`bindArguments_eq_error_iff`).
-/

namespace RecordSql

/-! ### Looking a name up -/

/-- Of several arguments of one name the last one counts. -/
theorem lookup?_eq_getLast? (args : List Argument) (name : String) :
    lookup? args name = ((args.filter (·.name == name)).getLast?).map (·.value) := by
  rw [lookup?, List.getLast?_filter]

theorem exists_lookup?_eq_some {args : List Argument} {name : String}
    (h : ∃ a ∈ args, a.name = name) : ∃ v, lookup? args name = some v := by
  obtain ⟨a, ha, rfl⟩ := h
  have hsome : (args.reverse.find? (·.name == a.name)).isSome := by
    rw [List.find?_isSome]
    exact ⟨a, List.mem_reverse.mpr ha, beq_self_eq_true _⟩
  obtain ⟨b, hb⟩ := Option.isSome_iff_exists.mp hsome
  exact ⟨b.value, by rw [lookup?, hb]; rfl⟩

/-- A name has no value exactly if no argument has it. -/
theorem lookup?_eq_none_iff {args : List Argument} {name : String} :
    lookup? args name = none ↔ ∀ a ∈ args, a.name ≠ name := by
  simp [lookup?]

/-! ### Binding a list of names -/

@[simp] theorem bindArguments_nil (args : List Argument) : bindArguments [] args = .ok [] := rfl

theorem bindArguments_cons (name : String) (names : List String) (args : List Argument) :
    bindArguments (name :: names) args =
      match lookup? args name with
      | some v => (bindArguments names args).map (v :: ·)
      | none => .error (.unknownParameter name) := by
  rw [bindArguments, List.mapM_cons]
  cases lookup? args name with
  | none => rfl
  | some v => rw [bindArguments]; rfl

/-- Parameters are bound if each of them has a value, and these are the values. -/
theorem bindArguments_eq_ok_iff {names : List String} {args : List Argument} {values : List Value} :
    bindArguments names args = .ok values ↔ names.map (lookup? args) = values.map some := by
  induction names generalizing values with
  | nil =>
    cases values with
    | nil => exact ⟨fun _ => rfl, fun _ => rfl⟩
    | cons v vs => simp
  | cons name names ih =>
    rw [bindArguments_cons, List.map_cons]
    cases hv : lookup? args name with
    | none => cases values <;> simp
    | some v =>
      cases values with
      | nil => cases bindArguments names args <;> simp [Except.map]
      | cons w ws =>
        rw [List.map_cons, List.cons.injEq, ← ih, Option.some.injEq]
        cases bindArguments names args <;> simp [Except.map]

/-- There is one value for each parameter. -/
theorem length_of_bindArguments_eq_ok {names : List String} {args : List Argument}
    {values : List Value} (h : bindArguments names args = .ok values) :
    values.length = names.length := by
  have hlength := congrArg List.length (bindArguments_eq_ok_iff.mp h)
  rw [List.length_map, List.length_map] at hlength
  exact hlength.symm

/-- The value of a parameter is the one that its name is looked up to. -/
theorem getElem?_of_bindArguments_eq_ok {names : List String} {args : List Argument}
    {values : List Value} (h : bindArguments names args = .ok values) {k : Nat} {name : String}
    (hk : names[k]? = some name) : values[k]? = lookup? args name := by
  have hget := congrArg (·[k]?) (bindArguments_eq_ok_iff.mp h)
  simp only [List.getElem?_map, hk, Option.map_some] at hget
  cases hv : values[k]? with
  | none => rw [hv] at hget; cases hget
  | some v => rw [hv] at hget; exact (Option.some.inj hget).symm

/-- The first of the names that no argument has. -/
def unbound? (names : List String) (args : List Argument) : Option String :=
  names.find? fun name => ∀ a ∈ args, a.name ≠ name

/-- If a parameter has no value, the fault names the first one. -/
theorem bindArguments_eq_error_iff {names : List String} {args : List Argument} {e : Fault} :
    bindArguments names args = .error e ↔
      (unbound? names args).map .unknownParameter = some e := by
  induction names with
  | nil => simp [unbound?]
  -- the first parameter decides if it has no value; otherwise the fault is that of the others
  | cons name names ih =>
    rw [bindArguments_cons]
    cases hv : lookup? args name with
    | none =>
      have hname : ∀ a ∈ args, a.name ≠ name := lookup?_eq_none_iff.mp hv
      have hunbound : unbound? (name :: names) args = some name :=
        List.find?_cons_of_pos (decide_eq_true hname)
      simp [hunbound]
    | some v =>
      have hname : ¬ ∀ a ∈ args, a.name ≠ name := by
        rw [← lookup?_eq_none_iff, hv]
        exact Option.some_ne_none v
      have hunbound : unbound? (name :: names) args = unbound? names args :=
        List.find?_cons_of_neg (by rwa [decide_eq_true_iff])
      rw [hunbound, ← ih]
      cases bindArguments names args <;> simp [Except.map]

/-- Arguments that supply every name can be bound. -/
theorem exists_bindArguments_eq_ok {names : List String} {args : List Argument}
    (h : ∀ name ∈ names, ∃ a ∈ args, a.name = name) :
    ∃ values, bindArguments names args = .ok values := by
  induction names with
  | nil => exact ⟨[], rfl⟩
  | cons name names ih =>
    rw [List.forall_mem_cons] at h
    obtain ⟨v, hv⟩ := exists_lookup?_eq_some h.1
    obtain ⟨values, hvalues⟩ := ih h.2
    exact ⟨v :: values, by rw [bindArguments_cons, hv, hvalues]; rfl⟩

end RecordSql
