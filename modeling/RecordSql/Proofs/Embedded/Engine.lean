import RecordSql.Proofs.Lookup.Query

/-!
# The embedded database as an engine

The embedded database binds a value as a cell without an affinity, and a column keeps the cell with its
own.  Null is kept as null in every column (`keepsNull_engine`); so is what is not a number, since that
is bound as null (`bindsNaNAsNull_engine`), and nothing equals it (`nullEqualsNothing_engine`).  A column of
text affinity recognizes everything else (`recognizes_engine_of_text`), and so does one of integer
affinity as far as integers go (`recognizes_engine_of_integer`).
-/

namespace RecordSql.Embedded

/-- The embedded database, for a table whose columns have the given affinities. -/
def engine (affinity : String → Affinity) : Engine Operand where
  bind v := (Cell.ofValue? v).map fun c => ⟨c.settled, none⟩
  keep name p := ⟨p.cell.coerce (affinity name), some (affinity name)⟩
  isNull x := x.cell.isNull
  equal x p := x.compare .equal p

/-- No affinity makes anything of null. -/
theorem Cell.coerce_null (a : Affinity) : Cell.null.coerce a = .null := by
  cases a <;> rfl

/-- What is not a number is settled as null. -/
theorem Cell.isNull_settled_of_isNaN {v : Value} {c : Cell} (h : v.isNaN = true)
    (hc : Cell.ofValue? v = some c) : c.settled = .null := by
  cases v with
  | float x =>
    obtain rfl := Option.some.inj hc
    exact if_pos h
  | _ => cases h

variable (affinity : String → Affinity)

/-- Every column keeps null. -/
theorem keepsNull_engine (name : String) : (engine affinity).KeepsNull name := by
  rintro p ⟨⟩
  show (Cell.null.coerce (affinity name)).isNull = true
  rw [Cell.coerce_null]
  rfl

/-- What is not a number is bound as null. -/
theorem bindsNaNAsNull_engine : (engine affinity).BindsNaNAsNull := by
  intro v p h hp
  obtain ⟨c, hc, rfl⟩ := Option.map_eq_some_iff.mp hp
  show c.settled.isNull = true
  rw [Cell.isNull_settled_of_isNaN h hc]
  rfl

/-- A comparison with null is unknown. -/
theorem nullEqualsNothing_engine : (engine affinity).NullEqualsNothing := by
  intro x p h
  have hp : p.cell.isNull = true := h
  have hunknown : x.compare .equal p = none := by
    unfold Operand.compare
    rw [if_pos (by simp [hp])]
  show x.compare .equal p ≠ some true
  rw [hunknown]
  simp

/-! ### Affinities that tell values apart -/

/-- Bytes are ordered by their first difference, so none comes before itself. -/
theorem compareBytes_self (bytes : List UInt8) : Cell.compareBytes bytes bytes = .eq := by
  induction bytes with
  | nil => rfl
  | cons b bytes ih => rw [Cell.compareBytes, ih, Nat.compare_eq_eq.mpr rfl]; rfl

/-- The text of a cell that is not null is a text or a blob, and equal to itself. -/
theorem Cell.order_toText_self {c : Cell} (h : c.isNull = false) : c.toText.order c.toText = .eq := by
  cases c with
  | null => cases h
  | blob bytes => exact compareBytes_self bytes
  | _ => exact compareBytes_self _

theorem Cell.isNull_toText (c : Cell) : c.toText.isNull = c.isNull := by
  cases c <;> rfl

/-- A value that is neither null nor no number is bound as a cell that is not null. -/
theorem Cell.isNull_settled {v : Value} {c : Cell} (hnull : v.isNull = false)
    (hnan : v.isNaN = false) (hc : Cell.ofValue? v = some c) : c.settled.isNull = false := by
  cases v with
  | null => cases hnull
  | bool b => cases b <;> (cases hc; rfl)
  | int t n =>
    cases t with
    | i128 => cases hc; rfl
    | _ =>
      obtain ⟨m, -, rfl⟩ := Option.map_eq_some_iff.mp hc
      rfl
  | float x =>
    obtain rfl := Option.some.inj hc
    -- settling makes null of what is not a number only
    have hx : (Cell.real x).settled = .real x := if_neg (Bool.eq_false_iff.mp hnan)
    rw [hx]
    rfl
  | text s => cases hc; rfl
  | bytes bs => cases hc; rfl

/-- A column of text affinity is compared with the text of a parameter, which is what it keeps. -/
theorem recognizes_engine_of_text {c : Column} (h : affinity c.name = .text)
    (hnull : c.value.isNull = false) (hnan : c.value.isNaN = false) :
    (engine affinity).Recognizes c := by
  intro p hp
  obtain ⟨cell, hcell, rfl⟩ := Option.map_eq_some_iff.mp hp
  have hset := Cell.isNull_settled hnull hnan hcell
  show Operand.compare .equal ⟨cell.settled.coerce (affinity c.name), some (affinity c.name)⟩
    ⟨cell.settled, none⟩ = some true
  rw [h, Operand.compare]
  show (if (cell.settled.toText.isNull || cell.settled.isNull) = true then none
    else some (BinaryOp.equal.accepts (cell.settled.toText.order cell.settled.toText))) = some true
  rw [Cell.isNull_toText, hset, Cell.order_toText_self hset]
  rfl

/-- A column of integer affinity is compared with an integer as it is. -/
theorem recognizes_engine_of_integer {c : Column} {n : Ranged .i64}
    (h : affinity c.name = .integer) (hn : Cell.ofValue? c.value = some (.integer n)) :
    (engine affinity).Recognizes c := by
  intro p hp
  obtain ⟨cell, hcell, rfl⟩ := Option.map_eq_some_iff.mp hp
  obtain rfl := Option.some.inj (hn.symm.trans hcell)
  show Operand.compare .equal ⟨(Cell.integer n).coerce (affinity c.name), some (affinity c.name)⟩
    ⟨.integer n, none⟩ = some true
  rw [h]
  show some (BinaryOp.equal.accepts (compare n.val n.val)) = some true
  rw [Int.compare_eq_eq.mpr rfl]
  rfl

end RecordSql.Embedded
