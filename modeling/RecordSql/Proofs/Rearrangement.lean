import Mathlib.Data.List.Dedup
import Mathlib.Logic.Relation
import Mathlib.Tactic.ByContra
import Mathlib.Tactic.IntervalCases
import RecordSql.Proofs.Binding

/-!
# Arguments rearranged

Parameters see nothing of their arguments but the last value of each name.  `Rearranged` relates lists
of arguments that lead to each other by changes which leave these values alone: neighbours of different
names change places, an argument that no parameter uses is added, one that a later argument shadows is
removed.  There are no other such changes (`rearranged_iff`): with them every list can be brought into
the same form, which has one argument for each name in use (`rearranged_settled`).

So what is bound is the same for lists that are `Rearranged`, and it is bound name by name
(`bindArguments_lastValues`).
-/

namespace RecordSql

/-! ### Looking a name up in parts of a list -/

theorem lookup?_append (args args' : List Argument) (name : String) :
    lookup? (args ++ args') name = (lookup? args' name).or (lookup? args name) := by
  rw [lookup?, List.reverse_append, List.find?_append, Option.map_or]
  rfl

theorem lookup?_singleton (a : Argument) (name : String) :
    lookup? [a] name = if a.name = name then some a.value else none := by
  by_cases h : a.name = name <;> simp [lookup?, h]

theorem lookup?_cons (a : Argument) (args : List Argument) (name : String) :
    lookup? (a :: args) name =
      (lookup? args name).or (if a.name = name then some a.value else none) := by
  rw [← List.singleton_append, lookup?_append, lookup?_singleton]

/-- An argument of another name is not looked at. -/
theorem lookup?_cons_of_ne {a : Argument} {name : String} (h : a.name ≠ name)
    (args : List Argument) : lookup? (a :: args) name = lookup? args name := by
  rw [lookup?_cons, if_neg h, Option.or_none]

/-- An argument is not looked at if a later one has its name. -/
theorem lookup?_cons_of_shadowed {a : Argument} {args : List Argument}
    (h : ∃ b ∈ args, b.name = a.name) (name : String) :
    lookup? (a :: args) name = lookup? args name := by
  by_cases ha : a.name = name
  · obtain ⟨v, hv⟩ := exists_lookup?_eq_some (ha ▸ h)
    rw [lookup?_cons, hv, Option.some_or]
  · exact lookup?_cons_of_ne ha args

/-! ### Changes that no parameter sees -/

/-- One change of the arguments of parameters with the given names. -/
inductive RearrangeStep (names : List String) : List Argument → List Argument → Prop where
  /-- Neighbours of different names change places. -/
  | swap (before after : List Argument) {a b : Argument} (differ : a.name ≠ b.name) :
    RearrangeStep names (before ++ a :: b :: after) (before ++ b :: a :: after)
  /-- An argument that no parameter uses is added. -/
  | unused (before after : List Argument) {a : Argument} (h : a.name ∉ names) :
    RearrangeStep names (before ++ after) (before ++ a :: after)
  /-- An argument with a later one of its name is removed. -/
  | shadowed (before after : List Argument) {a : Argument} (h : ∃ b ∈ after, b.name = a.name) :
    RearrangeStep names (before ++ a :: after) (before ++ after)

/-- Arguments that lead to each other by any number of changes, made or undone. -/
def Rearranged (names : List String) : List Argument → List Argument → Prop :=
  Relation.EqvGen (RearrangeStep names)

variable {names : List String} {args args' : List Argument}

/-- A change leaves the last value of each name alone. -/
theorem RearrangeStep.lookup?_eq (step : RearrangeStep names args args') {name : String}
    (used : name ∈ names) : lookup? args' name = lookup? args name := by
  cases step with
  | @swap before after a b differ =>
    rw [lookup?_append, lookup?_append]
    by_cases ha : a.name = name
    · -- then the other one has another name, and is not looked at on either side
      have hb : b.name ≠ name := fun hb => differ (ha.trans hb.symm)
      rw [lookup?_cons_of_ne hb, lookup?_cons a, lookup?_cons a, lookup?_cons_of_ne hb]
    · rw [lookup?_cons_of_ne ha, lookup?_cons b, lookup?_cons b, lookup?_cons_of_ne ha]
  | @unused before after a h =>
    have ha : a.name ≠ name := fun ha => h (ha ▸ used)
    rw [lookup?_append, lookup?_append, lookup?_cons_of_ne ha]
  | @shadowed before after a h =>
    rw [lookup?_append, lookup?_append, lookup?_cons_of_shadowed h]

/-- Rearranging arguments changes no value that a parameter sees. -/
theorem Rearranged.lookup?_eq (h : Rearranged names args args') {name : String}
    (used : name ∈ names) : lookup? args' name = lookup? args name := by
  induction h with
  | rel args args' step => exact step.lookup?_eq used
  | refl args => rfl
  | symm args args' _ ih => exact ih.symm
  | trans args args' args'' _ _ ih ih' => exact ih'.trans ih

/-! ### A list that is as short as can be -/

/-- A change behind more arguments. -/
theorem RearrangeStep.cons (a : Argument) (step : RearrangeStep names args args') :
    RearrangeStep names (a :: args) (a :: args') := by
  cases step with
  | swap before after differ => exact .swap (a :: before) after differ
  | unused before after h => exact .unused (a :: before) after h
  | shadowed before after h => exact .shadowed (a :: before) after h

theorem Rearranged.cons (a : Argument) (h : Rearranged names args args') :
    Rearranged names (a :: args) (a :: args') := by
  induction h with
  | rel args args' step => exact .rel _ _ (step.cons a)
  | refl args => exact .refl _
  | symm args args' _ ih => exact .symm _ _ ih
  | trans args args' args'' _ _ ih ih' => exact .trans _ _ _ ih ih'

/-- An argument can be moved behind arguments of other names. -/
theorem rearranged_move {a : Argument} {before : List Argument}
    (differ : ∀ b ∈ before, b.name ≠ a.name) (after : List Argument) :
    Rearranged names (a :: (before ++ after)) (before ++ a :: after) := by
  induction before with
  | nil => exact .refl _
  | cons b before ih =>
    rw [List.forall_mem_cons] at differ
    have hswap : Rearranged names (a :: b :: (before ++ after)) (b :: a :: (before ++ after)) :=
      .rel _ _ (.swap [] (before ++ after) (Ne.symm differ.1))
    exact hswap.trans _ _ _ ((ih differ.2).cons b)

/-- The arguments with these names that are bound: one for each name that has any. -/
def settledFrom (args : List Argument) (names : List String) : List Argument :=
  names.filterMap fun name => (lookup? args name).map (Argument.mk name)

/-- The arguments that parameters with the given names see, in the order of the parameters. -/
def settled (names : List String) (args : List Argument) : List Argument :=
  settledFrom args names.dedup

theorem mem_settledFrom {b : Argument} :
    b ∈ settledFrom args names ↔ b.name ∈ names ∧ lookup? args b.name = some b.value := by
  rw [settledFrom, List.mem_filterMap]
  constructor
  · rintro ⟨name, hname, hb⟩
    obtain ⟨v, hv, rfl⟩ := Option.map_eq_some_iff.mp hb
    exact ⟨hname, hv⟩
  · rintro ⟨hname, hv⟩
    exact ⟨b.name, hname, by rw [hv]; rfl⟩

/-- The normal form of a list depends on nothing but these values. -/
theorem settledFrom_congr (h : ∀ name ∈ names, lookup? args' name = lookup? args name) :
    settledFrom args' names = settledFrom args names :=
  List.filterMap_congr fun name hname => by rw [h name hname]

theorem settledFrom_cons_of_ne {a : Argument} (h : ∀ name ∈ names, a.name ≠ name) :
    settledFrom (a :: args) names = settledFrom args names :=
  settledFrom_congr fun name hname => lookup?_cons_of_ne (h name hname) args

/-- The first argument of a name finds its place among the others. -/
theorem rearranged_cons_settledFrom {a : Argument} {order : List String} (nodup : order.Nodup)
    (used : a.name ∈ order) (new : lookup? args a.name = none) :
    Rearranged names (a :: settledFrom args order) (settledFrom (a :: args) order) := by
  obtain ⟨front, back, rfl⟩ := List.append_of_mem used
  obtain ⟨-, hnodup, hdisjoint⟩ := List.nodup_append.mp nodup
  have hfront : ∀ name ∈ front, a.name ≠ name := fun name hname h =>
    hdisjoint name hname a.name List.mem_cons_self h.symm
  have hback : ∀ name ∈ back, a.name ≠ name := fun name hname h =>
    (List.nodup_cons.mp hnodup).1 (h ▸ hname)
  have hself : lookup? (a :: args) a.name = some a.value := by
    rw [lookup?_cons, new, if_pos rfl, Option.none_or]
  -- the order has the name once, so its argument has one place, between those in front of it and
  -- those behind
  have hold : settledFrom args (front ++ a.name :: back) =
      settledFrom args front ++ settledFrom args back := by
    rw [settledFrom, List.filterMap_append, List.filterMap_cons, new]
    rfl
  have hnew : settledFrom (a :: args) (front ++ a.name :: back) =
      settledFrom args front ++ a :: settledFrom args back := by
    rw [← settledFrom_cons_of_ne hfront, ← settledFrom_cons_of_ne hback, settledFrom,
      List.filterMap_append, List.filterMap_cons, hself]
    rfl
  have hdiffer : ∀ b ∈ settledFrom args front, b.name ≠ a.name := fun b hb =>
    Ne.symm (hfront b.name (mem_settledFrom.mp hb).1)
  rw [hold, hnew]
  exact rearranged_move hdiffer _

/-- Every list of arguments can be brought into the form that parameters see. -/
theorem rearranged_settled (names : List String) (args : List Argument) :
    Rearranged names args (settled names args) := by
  induction args with
  | nil =>
    have hnil : settled names [] = [] := List.filterMap_eq_nil_iff.mpr fun _ _ => rfl
    rw [hnil]
    exact .refl []
  | cons a args ih =>
    -- the arguments behind `a` are in that form already, and `a` stays, goes, or never counted
    refine (ih.cons a).trans _ _ _ ?_
    unfold settled
    by_cases used : a.name ∈ names
    · by_cases shadowed : ∃ b ∈ args, b.name = a.name
      · have hsame : settledFrom (a :: args) names.dedup = settledFrom args names.dedup :=
          settledFrom_congr fun name _ => lookup?_cons_of_shadowed shadowed name
        obtain ⟨v, hv⟩ := exists_lookup?_eq_some shadowed
        have hmem : (⟨a.name, v⟩ : Argument) ∈ settledFrom args names.dedup :=
          mem_settledFrom.mpr ⟨List.mem_dedup.mpr used, hv⟩
        rw [hsame]
        exact .rel _ _ (.shadowed [] _ ⟨_, hmem, rfl⟩)
      · have hnew : lookup? args a.name = none :=
          lookup?_eq_none_iff.mpr fun b hb hname => shadowed ⟨b, hb, hname⟩
        exact rearranged_cons_settledFrom names.nodup_dedup (List.mem_dedup.mpr used) hnew
    · have hother : ∀ name ∈ names.dedup, a.name ≠ name := fun name hname h =>
        used (h ▸ List.mem_dedup.mp hname)
      rw [settledFrom_cons_of_ne hother]
      exact .symm _ _ (.rel _ _ (.unused [] _ used))

/-- Arguments lead to each other if and only if they agree on the last value of each name. -/
theorem rearranged_iff :
    Rearranged names args args' ↔ ∀ name ∈ names, lookup? args' name = lookup? args name := by
  constructor
  · intro h name used
    exact h.lookup?_eq used
  · intro h
    have hsettled : settled names args' = settled names args :=
      settledFrom_congr fun name hname => h name (List.mem_dedup.mp hname)
    have hback : Rearranged names (settled names args) args' :=
      .symm _ _ (hsettled ▸ rearranged_settled names args')
    exact (rearranged_settled names args).trans _ _ _ hback

/-! ### Binding -/

theorem bindArguments_congr (h : ∀ name ∈ names, lookup? args' name = lookup? args name) :
    bindArguments names args' = bindArguments names args := by
  induction names with
  | nil => rfl
  | cons name names ih =>
    rw [List.forall_mem_cons] at h
    rw [bindArguments_cons, bindArguments_cons, h.1, ih h.2]

/-- Parameters are bound one part of them after the other, up to the first that has no argument. -/
theorem bindArguments_append (names names' : List String) (args : List Argument) :
    bindArguments (names ++ names') args = (do
      let values ← bindArguments names args
      let values' ← bindArguments names' args
      return values ++ values') := by
  rw [bindArguments, List.mapM_append]
  rfl

/-- The value of the last argument of a name, in the order in which the arguments are written. -/
def Argument.lastValue? (args : List Argument) (name : String) : Option Value :=
  ((args.filter (·.name == name)).getLast?).map (·.value)

theorem lookup?_eq_lastValue? (args : List Argument) (name : String) :
    lookup? args name = Argument.lastValue? args name :=
  lookup?_eq_getLast? args name

/-- There is one value for each parameter, that of the last argument of its name. -/
theorem bindArguments_eq_ok_iff_getElem? {values : List Value} :
    bindArguments names args = .ok values ↔
      values.length = names.length ∧
        ∀ (k : Nat) name, names[k]? = some name → values[k]? = Argument.lastValue? args name := by
  constructor
  · intro h
    refine ⟨length_of_bindArguments_eq_ok h, fun k name hk => ?_⟩
    rw [← lookup?_eq_lastValue?]
    exact getElem?_of_bindArguments_eq_ok h hk
  · rintro ⟨hlength, hvalues⟩
    refine bindArguments_eq_ok_iff.mpr (List.ext_getElem? fun k => ?_)
    rw [List.getElem?_map, List.getElem?_map]
    cases hk : names[k]? with
    | none =>
      have hend : names.length ≤ k := List.getElem?_eq_none_iff.mp hk
      rw [List.getElem?_eq_none_iff.mpr (by omega : values.length ≤ k)]
      rfl
    | some name =>
      have hk' : k < values.length := hlength ▸ (List.getElem?_eq_some_iff.mp hk).1
      have hvalue := hvalues k name hk
      rw [List.getElem?_eq_getElem hk', ← lookup?_eq_lastValue?] at hvalue
      rw [List.getElem?_eq_getElem hk', Option.map_some, Option.map_some, ← hvalue]

theorem exists_bindArguments_eq_ok_iff :
    (∃ values, bindArguments names args = .ok values) ↔
      ∀ name ∈ names, ∃ a ∈ args, a.name = name := by
  refine ⟨?_, exists_bindArguments_eq_ok⟩
  rintro ⟨values, h⟩ name hname
  by_contra hnone
  have hlookup : lookup? args name = none :=
    lookup?_eq_none_iff.mpr fun a ha hname => hnone ⟨a, ha, hname⟩
  have hmem : lookup? args name ∈ values.map some := by
    rw [← bindArguments_eq_ok_iff.mp h]
    exact List.mem_map_of_mem hname
  rw [hlookup] at hmem
  simp at hmem

/-- The fault names the first parameter that has no argument. -/
theorem bindArguments_eq_error_iff_append {e : Fault} :
    bindArguments names args = .error e ↔
      ∃ before name after, names = before ++ name :: after ∧
        (∀ other ∈ before, ∃ a ∈ args, a.name = other) ∧ (∀ a ∈ args, a.name ≠ name) ∧
        e = .unknownParameter name := by
  rw [bindArguments_eq_error_iff, Option.map_eq_some_iff]
  constructor
  · rintro ⟨name, hname, rfl⟩
    obtain ⟨hnone, before, after, hnames, hbefore⟩ := List.find?_eq_some_iff_append.mp hname
    refine ⟨before, name, after, hnames, fun other hother => ?_, of_decide_eq_true hnone, rfl⟩
    simpa using hbefore other hother
  · rintro ⟨before, name, after, hnames, hbefore, hnone, rfl⟩
    refine ⟨name, List.find?_eq_some_iff_append.mpr ⟨decide_eq_true hnone, before, after, hnames, ?_⟩,
      rfl⟩
    intro other hother
    simpa using hbefore other hother

/-- **Binding depends on nothing but the last value of each name.**  Arguments can be bound if every
parameter has one, each parameter gets the last value of its name, and the first without an argument is
the fault.  Arguments in another order, with names that nothing uses or with others in their shadow are
bound alike, and parameters in two parts are bound part by part. -/
theorem bindArguments_lastValues (names : List String) (args : List Argument) :
    ((∃ values, bindArguments names args = .ok values) ↔
      ∀ name ∈ names, ∃ a ∈ args, a.name = name) ∧
    (∀ values, bindArguments names args = .ok values ↔
      values.length = names.length ∧
        ∀ (k : Nat) name, names[k]? = some name → values[k]? = Argument.lastValue? args name) ∧
    (∀ e, bindArguments names args = .error e ↔
      ∃ before name after, names = before ++ name :: after ∧
        (∀ other ∈ before, ∃ a ∈ args, a.name = other) ∧ (∀ a ∈ args, a.name ≠ name) ∧
        e = .unknownParameter name) ∧
    (∀ args', Rearranged names args args' ↔
      ∀ name ∈ names, Argument.lastValue? args' name = Argument.lastValue? args name) ∧
    (∀ args', Rearranged names args args' → bindArguments names args' = bindArguments names args) ∧
    ∀ names', bindArguments (names ++ names') args = do
      let values ← bindArguments names args
      let values' ← bindArguments names' args
      return values ++ values' := by
  refine ⟨exists_bindArguments_eq_ok_iff, fun values => bindArguments_eq_ok_iff_getElem?,
    fun e => bindArguments_eq_error_iff_append, fun args' => ?_, fun args' h => ?_,
    fun names' => bindArguments_append names names' args⟩
  · simp only [← lookup?_eq_lastValue?]
    exact rearranged_iff
  · exact bindArguments_congr fun name used => h.lookup?_eq used

/-- A shadowed argument and one that nothing uses go, and the others change places. -/
theorem bindArguments_lastValues_repeated :
    let names := ["x", "y", "x"]
    let args : List Argument := [⟨"x", .text "1"⟩, ⟨"", .null⟩, ⟨"x", .text "2"⟩, ⟨"y", .bool true⟩]
    let args' : List Argument := [⟨"y", .bool true⟩, ⟨"x", .text "2"⟩]
    Rearranged names args args' ∧
      bindArguments names args' = bindArguments names args ∧
      bindArguments names args = .ok [.text "2", .bool true, .text "2"] ∧
      bindArguments (names ++ ["z", "w"]) args = .error (.unknownParameter "z") := by
  intro names args args'
  obtain ⟨-, hok, -, hrearranged, hbound, -⟩ := bindArguments_lastValues names args
  obtain ⟨-, -, herror, -, -, -⟩ := bindArguments_lastValues (names ++ ["z", "w"]) args
  have hargs : Rearranged names args args' := (hrearranged args').mpr (by decide)
  have hnames : ∀ (k : Nat) name, names[k]? = some name →
      [Value.text "2", .bool true, .text "2"][k]? = Argument.lastValue? args name := by
    intro k name hk
    have hlt : k < 3 := (List.getElem?_eq_some_iff.mp hk).1
    interval_cases k <;> cases hk <;> rfl
  refine ⟨hargs, hbound args' hargs, (hok _).mpr ⟨rfl, hnames⟩, (herror _).mpr ?_⟩
  exact ⟨names, "z", ["w"], rfl, by decide, by decide, rfl⟩

end RecordSql
