import RecordSql.Record

/-!
# Scans

A scan goes through the fields and the row side by side.  A stored field takes what the reader gives
for it (`scanFields_cons_of_ok`) or ends the scan (`scanFields_cons_of_error`), and a field that is
not stored is passed over (`scanFields_cons_of_unstored`).  So a scan in which each stored field finds
a value that it can read uses up one value for each of them, in order (`scanFields_of_found`), and
the first that finds none ends it with a fault that names the value (`Reader.next_of_not_found`).
-/

namespace RecordSql

section Next

variable {row : FetchedRow} {t : FieldType} {position : Nat} {v : Value}

/-- The next value of a reader is that at its position. -/
theorem Reader.next_of_getElem? (h : row.values[position]? = some v) :
    (Reader.mk row position).next t =
      ((t.read v).mapError fun issue => .decode (row.columnName position) issue.message,
        ⟨row, position + 1⟩) := by
  have hposition : position < row.values.length := (List.getElem?_eq_some_iff.mp h).1
  rw [Reader.next, if_pos hposition, FetchedRow.get, h]

/-- The next value of a reader is the first of those that are left. -/
theorem Reader.next_of_drop {vs : List Value} (t : FieldType)
    (h : row.values.drop position = v :: vs) :
    (Reader.mk row position).next t =
        ((t.read v).mapError fun issue => .decode (row.columnName position) issue.message,
          ⟨row, position + 1⟩) ∧
      row.values.drop (position + 1) = vs := by
  have hvalue : row.values[position]? = some v := by
    have hhead := congrArg (·[0]?) h
    rwa [List.getElem?_drop, Nat.add_zero] at hhead
  refine ⟨Reader.next_of_getElem? hvalue, ?_⟩
  rw [← List.tail_drop, h]
  rfl

/-- What a field of the given type reads from the value with the given index, if it can. -/
def FetchedRow.found (row : FetchedRow) (t : FieldType) (index : Nat) : Option Value :=
  row.values[index]?.bind fun v => (t.read v).toOption

/-- What is said of a value that is not found, and how many values are left: it is missing, or it is
there and cannot be read. -/
def FetchedRow.Refuses (row : FetchedRow) (t : FieldType) (index : Nat) (e : Fault) (left : Nat) :
    Prop :=
  match row.values[index]? with
  | none =>
    e = .decode (Text.showNat index)
      ("row has only " ++ Text.showNat row.values.length ++ " values") ∧ left = 0
  | some v => ∃ issue, t.read v = .error issue ∧
    e = .decode (row.columnName index) issue.message ∧ left = row.values.length - index - 1

/-- A field takes what is found at its place. -/
theorem Reader.next_of_found (h : row.found t position = some v) :
    (Reader.mk row position).next t = (.ok v, ⟨row, position + 1⟩) := by
  obtain ⟨given, hgiven, hread⟩ := Option.bind_eq_some_iff.mp h
  rw [Reader.next_of_getElem? hgiven]
  cases hgivenRead : t.read given with
  | error issue =>
    rw [hgivenRead] at hread
    cases hread
  | ok v' =>
    rw [hgivenRead] at hread
    cases hread
    rfl

/-- A field fails if nothing is found at its place that it reads. -/
theorem Reader.next_of_not_found (h : row.found t position = none) :
    ∃ e r, (Reader.mk row position).next t = (.error e, r) ∧
      row.Refuses t position e r.remaining := by
  unfold FetchedRow.Refuses
  -- either the row has no more values, or the field does not read the one it has
  cases hvalue : row.values[position]? with
  | none =>
    have hposition : ¬ position < row.values.length :=
      Nat.not_lt.mpr (List.getElem?_eq_none_iff.mp hvalue)
    refine ⟨_, _, by rw [Reader.next, if_neg hposition], rfl, ?_⟩
    exact Nat.sub_eq_zero_of_le (Nat.not_lt.mp hposition)
  | some v =>
    have hread : (t.read v).toOption = none := by
      rw [FetchedRow.found, hvalue] at h
      exact h
    rw [Reader.next_of_getElem? hvalue]
    cases hissue : t.read v with
    | ok v' =>
      rw [hissue] at hread
      cases hread
    | error issue =>
      exact ⟨_, _, rfl, issue, hissue, rfl, (Nat.sub_sub ..).symm⟩

end Next

section Step

variable {f : Field} {fs : List Field} {r r' : Reader}

/-- A field that is not stored stays as it is. -/
theorem scanFields_cons_of_unstored (unstored : f.plan = none) :
    Entry.scanFields (f :: fs) r =
      { Entry.scanFields fs r with record := f :: (Entry.scanFields fs r).record } := by
  rw [Entry.scanFields]
  dsimp only
  rw [unstored]

/-- A stored field takes the value that is read for it, and the scan goes on. -/
theorem scanFields_cons_of_ok {v : Value} (stored : f.plan ≠ none)
    (next : r.next f.type = (.ok v, r')) :
    Entry.scanFields (f :: fs) r =
      { Entry.scanFields fs r' with
        record := { f with value := v } :: (Entry.scanFields fs r').record } := by
  obtain ⟨type, value, plan⟩ := f
  cases plan with
  | none => exact absurd rfl stored
  | some plan =>
    rw [Entry.scanFields]
    dsimp only
    rw [next]

/-- A value that cannot be read ends the scan. -/
theorem scanFields_cons_of_error {e : Fault} (stored : f.plan ≠ none)
    (next : r.next f.type = (.error e, r')) :
    Entry.scanFields (f :: fs) r = ⟨f :: fs, r', .error e⟩ := by
  obtain ⟨type, value, plan⟩ := f
  cases plan with
  | none => exact absurd rfl stored
  | some plan =>
    rw [Entry.scanFields]
    dsimp only
    rw [next]

end Step

/-- A scan of more fields goes on where the one of the first fields has ended. -/
theorem scanFields_append_of_ok {fs gs done : List Field} {r r' : Reader}
    (h : Entry.scanFields fs r = ⟨done, r', .ok ()⟩) :
    Entry.scanFields (fs ++ gs) r =
      { Entry.scanFields gs r' with record := done ++ (Entry.scanFields gs r').record } := by
  induction fs generalizing r done with
  | nil =>
    cases h
    rfl
  | cons f fs ih =>
    rw [List.cons_append]
    cases hplan : f.plan with
    | none =>
      rw [scanFields_cons_of_unstored hplan, Scanned.mk.injEq] at h
      obtain ⟨rfl, hreader, houtcome⟩ := h
      have hfs : Entry.scanFields fs r = ⟨(Entry.scanFields fs r).record, r', .ok ()⟩ := by
        rw [← hreader, ← houtcome]
      rw [scanFields_cons_of_unstored hplan, ih hfs]
      rfl
    | some plan =>
      have hstored : f.plan ≠ none := by
        rw [hplan]
        exact Option.some_ne_none plan
      -- a field that fails would have ended the scan
      rcases hnext : r.next f.type with ⟨e | v, r''⟩
      · rw [scanFields_cons_of_error hstored hnext] at h
        cases h
      · rw [scanFields_cons_of_ok hstored hnext, Scanned.mk.injEq] at h
        obtain ⟨rfl, hreader, houtcome⟩ := h
        have hfs : Entry.scanFields fs r'' = ⟨(Entry.scanFields fs r'').record, r', .ok ()⟩ := by
          rw [← hreader, ← houtcome]
        rw [scanFields_cons_of_ok hstored hnext, ih hfs]
        rfl

section Found

variable {row : FetchedRow} {position : Nat} {ι : Type}

/-- The places of the fields that are stored. -/
def storedOf (field : ι → Field) (is : List ι) : List ι :=
  is.filter fun i => (field i).plan.isSome

/-- The field with the value that is read for it, if it is stored. -/
def Field.taking (f : Field) (v : Value) : Field :=
  if f.plan.isSome then { f with value := v } else f

/-- A scan in which each stored field finds its value uses up a value for each of them. -/
theorem scanFields_of_found {field : ι → Field} {value : ι → Value} {is : List ι}
    (found : ∀ n i, (storedOf field is)[n]? = some i →
      row.found (field i).type (position + n) = some (value i)) :
    Entry.scanFields (is.map field) ⟨row, position⟩ =
      ⟨is.map fun i => (field i).taking (value i),
        ⟨row, position + (storedOf field is).length⟩, .ok ()⟩ := by
  -- the position is that of the first value that no field has used up
  induction is generalizing position with
  | nil => rfl
  | cons i is ih =>
    rw [List.map_cons]
    cases hplan : (field i).plan with
    | none =>
      have hstored : storedOf field (i :: is) = storedOf field is := by
        simp [storedOf, hplan]
      have htaking : (field i).taking (value i) = field i := by
        simp [Field.taking, hplan]
      rw [hstored] at found ⊢
      rw [scanFields_cons_of_unstored hplan, ih found, List.map_cons, htaking]
    | some plan =>
      have hstored : storedOf field (i :: is) = i :: storedOf field is := by
        simp [storedOf, hplan]
      have htaking : (field i).taking (value i) = { field i with value := value i } := by
        simp [Field.taking, hplan]
      have hplan' : (field i).plan ≠ none := by
        rw [hplan]
        exact Option.some_ne_none plan
      rw [hstored] at found ⊢
      have hfirst : row.found (field i).type position = some (value i) := found 0 i rfl
      have hothers : ∀ n j, (storedOf field is)[n]? = some j →
          row.found (field j).type (position + 1 + n) = some (value j) := by
        intro n j hj
        rw [Nat.add_right_comm]
        exact found (n + 1) j hj
      rw [scanFields_cons_of_ok hplan' (Reader.next_of_found hfirst), ih hothers, List.map_cons,
        htaking, List.length_cons, Nat.add_right_comm, Nat.add_assoc]

end Found

end RecordSql
