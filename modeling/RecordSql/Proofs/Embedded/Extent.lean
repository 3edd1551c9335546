import RecordSql.Embedded.Extent
import RecordSql.Proofs.Embedded.Selection

/-!
# The extent of the statements of a record

The statements that create the table of a record and insert the record are never too large for the
databases in memory, since a table has fewer columns than a statement has markers.  A query is too large
exactly if it has too many conditions: their conjunction is as high as there are conditions, and one
higher (`checkExtent_selection_iff`).
-/

namespace RecordSql.Embedded

open Phrase

/-! ### Heights -/

theorem height_condition (c : Condition) : c.expr.height = 2 := by
  cases c <;> rfl

/-- Every further condition makes a conjunction one higher. -/
theorem height_conjunction {e : Expr String} (he : 2 ≤ e.height) (conditions : List Condition) :
    (conjunction e conditions).height = e.height + conditions.length := by
  induction conditions generalizing e with
  | nil => rfl
  | cons c conditions ih =>
    have hand : (Expr.binary .and e c.expr).height = e.height + 1 := by
      rw [Expr.height, height_condition, Nat.max_eq_left he]
    have hrest := ih (e := .binary .and e c.expr) (by rw [hand]; exact Nat.le_succ_of_le he)
    rw [hand, Nat.add_assoc, Nat.add_comm 1] at hrest
    exact hrest

/-- Columns that are selected stand by themselves. -/
theorem height_of_selects {names : List String} {projection : Projection}
    (h : Selects names projection) : ∀ e ∈ projection.exprs, e.height = 1 := by
  obtain ⟨items, rfl, hitems⟩ := h
  show ∀ e ∈ items.map (·.value), e.height = 1
  induction hitems with
  | nil => exact fun _ he => absurd he List.not_mem_nil
  | cons hi _ ih => exact List.forall_mem_cons.mpr ⟨congrArg Expr.height hi.1, ih⟩

/-- The condition of a query is one higher than the number of its parts. -/
theorem height_of_mem_conjunction? {conditions : List Condition} {e : Expr String}
    (h : e ∈ conjunction? conditions) : e.height = conditions.length + 1 := by
  cases conditions with
  | nil => cases h
  | cons c conditions =>
    cases h
    rw [height_conjunction (Nat.le_of_eq (height_condition c).symm), height_condition,
      List.length_cons]
    omega

/-! ### Commands -/

/-- A command is not too large if its markers take few values and its expressions are low. -/
theorem checkExtent_eq_ok_iff {c : Command} {needed : Nat} :
    c.checkExtent needed = .ok () ↔
      needed ≤ maxMarkers ∧ ∀ e ∈ c.exprs, e.height ≤ maxHeight := by
  rw [Command.checkExtent]
  by_cases hmarkers : maxMarkers < needed
  · rw [if_pos hmarkers]
    exact iff_of_false (fun h => by cases h) fun h => Nat.not_lt.mpr h.1 hmarkers
  rw [if_neg hmarkers, and_iff_right (Nat.not_lt.mp hmarkers)]
  cases hhigh : c.exprs.any fun e => maxHeight < e.height with
  | true =>
    obtain ⟨e, he, hlt⟩ := List.any_eq_true.mp hhigh
    exact iff_of_false (fun h => by cases h) fun h =>
      Nat.not_lt.mpr (h e he) (of_decide_eq_true hlt)
  | false =>
    refine iff_of_true rfl fun e he => Nat.not_lt.mp fun hlt => ?_
    exact List.any_eq_false.mp hhigh e he (decide_eq_true hlt)

/-- The command that creates a table has no expressions. -/
theorem checkExtent_createCommand (table : String) (headings : List Heading) :
    (createCommand table headings).checkExtent 0 = .ok () :=
  checkExtent_eq_ok_iff.mpr ⟨Nat.zero_le _, fun _ h => absurd h List.not_mem_nil⟩

/-- An insert of no more cells than a table has columns is not too large. -/
theorem checkExtent_insertCommand {table : String} {names : List String}
    (few : names.length ≤ maxColumns) :
    (insertCommand table names).checkExtent names.length = .ok () := by
  refine checkExtent_eq_ok_iff.mpr ⟨Nat.le_trans few (by decide), fun e he => ?_⟩
  have hlow : e.height = 1 := by
    by_cases hnames : names.isEmpty = true
    · rw [insertCommand, if_pos hnames] at he
      cases he
    · rw [insertCommand, if_neg hnames] at he
      obtain ⟨k, -, rfl⟩ : ∃ k, k ∈ List.range' 1 names.length ∧ Expr.marker k = e := by
        simpa [Command.exprs, RowSource.exprs, markerExprs] using he
      rfl
  rw [hlow]
  decide

/-- A query takes no more values than it has conditions. -/
theorem markers_le (q : Selection) : q.markers ≤ q.conditions.length := by
  rw [Selection.markers]
  induction q.conditions with
  | nil => exact Nat.le_refl 0
  | cons c conditions ih =>
    have hone : c.markers ≤ 1 := by
      cases c with
      | isNull _ => exact Nat.zero_le 1
      | equals _ _ => exact Nat.le_refl 1
    rw [List.map_cons, List.sum_cons, List.length_cons]
    omega

/-- **A query is not too large exactly if its conditions leave room for one more.** -/
theorem checkExtent_selection_iff {q : Selection} {projection : Projection}
    (h : Selects q.names projection) :
    (Command.query ⟨projection, some q.table, conjunction? q.conditions,
        orderTerms q.descending⟩).checkExtent q.markers = .ok () ↔
      q.conditions.length < maxHeight := by
  rw [checkExtent_eq_ok_iff]
  constructor
  · rintro ⟨-, hlow⟩
    cases hcondition : conjunction? q.conditions with
    | none =>
      have hnil : q.conditions = [] := by
        cases hconditions : q.conditions with
        | nil => rfl
        | cons c conditions =>
          rw [hconditions] at hcondition
          cases hcondition
      rw [hnil]
      decide
    | some e =>
      have he := hlow e (by simp [Command.exprs, Query.exprs, hcondition])
      rwa [height_of_mem_conjunction? hcondition] at he
  · intro hlow
    have hone : 1 ≤ maxHeight := by decide
    have hmarkers : q.markers ≤ maxMarkers :=
      Nat.le_trans (markers_le q) (Nat.le_trans (Nat.le_of_lt hlow) (by decide))
    refine ⟨hmarkers, fun e he => ?_⟩
    rcases List.mem_append.mp he with he | he
    · rcases List.mem_append.mp he with he | he
      · exact height_of_selects h e he ▸ hone
      · exact height_of_mem_conjunction? (Option.mem_toList.mp he) ▸ hlow
    · obtain ⟨o, ho, rfl⟩ := List.mem_map.mp he
      obtain ⟨s, -, rfl⟩ := List.mem_map.mp ho
      exact hone

end RecordSql.Embedded
