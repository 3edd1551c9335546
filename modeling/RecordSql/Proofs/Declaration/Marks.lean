import RecordSql.Declaration.Mapping
import RecordSql.Proofs.Result

/-!
# What the attributes of a field say

The items of a field are added to its marks one by one.  `FieldMarks.said` reads the marks off the
whole list instead: a key that takes a value has that of its last item, and a key without one is
there or not.  `FieldMarks.foldlM_add_eq_ok_iff` is the agreement of the two, by one step
(`add_said_eq_ok_iff`) for all the keys, and the mapping of a field that is accepted is
`FieldDeclaration.mapped`.
-/

namespace RecordSql.Declaration

/-! ### Items -/

namespace Item

/-- The keys that take a value. -/
def valueKeys : List String := ["column", "sql_type"]

/-- The keys that take none. -/
def markKeys : List String := ["primary_key", "auto_key", "no_insert", "blob", "skip"]

/-- Whether the key is known, and has a value exactly if it takes one. -/
def IsWellFormed (item : Item) : Prop :=
  item.key ∈ valueKeys ∧ item.value ≠ none ∨ item.key ∈ markKeys ∧ item.value = none

instance (item : Item) : Decidable item.IsWellFormed :=
  inferInstanceAs (Decidable (_ ∨ _))

/-- The value of the last item with the given key. -/
def lastValue? (key : String) (items : List Item) : Option String :=
  (items.filter (·.key = key)).getLast?.bind (·.value)

/-- Whether there is an item with the given key. -/
def isGiven (key : String) (items : List Item) : Bool :=
  items.any (·.key = key)

/-- One more item replaces the value of its own key. -/
theorem lastValue?_append_singleton (key : String) (items : List Item) (item : Item) :
    lastValue? key (items ++ [item]) =
      if item.key = key then item.value else lastValue? key items := by
  unfold lastValue?
  by_cases h : item.key = key <;> simp [List.filter_append, h]

/-- One more item gives its own key. -/
theorem isGiven_append_singleton (key : String) (items : List Item) (item : Item) :
    isGiven key (items ++ [item]) = if item.key = key then true else isGiven key items := by
  unfold isGiven
  by_cases h : item.key = key <;> simp [h]

end Item

/-! ### Marks -/

namespace FieldMarks

open Item

/-- The marks that a list of items says. -/
def said (items : List Item) : FieldMarks where
  column := lastValue? "column" items
  sqlType := lastValue? "sql_type" items
  primaryKey := isGiven "primary_key" items
  autoKey := isGiven "auto_key" items
  noInsert := isGiven "no_insert" items
  blob := isGiven "blob" items
  skip := isGiven "skip" items

variable {items : List Item} {item : Item} {m : FieldMarks}

/-- One more item is added if it is well-formed. -/
theorem add_said_eq_ok_iff :
    (said items).add item = .ok m ↔ item.IsWellFormed ∧ m = said (items ++ [item]) := by
  obtain ⟨key, value⟩ := item
  unfold add said IsWellFormed
  simp only [lastValue?_append_singleton, isGiven_append_singleton, valueKeys, markKeys]
  -- one case for each key, and one for all others
  split
  case h_8 unknown hcolumn htype hprimary hauto hno hblob hskip =>
    refine iff_of_false (by simp) ?_
    rintro ⟨⟨hkey, -⟩ | ⟨hkey, -⟩, -⟩
    · simp only [List.mem_cons, List.not_mem_nil, or_false] at hkey
      exact hkey.elim hcolumn htype
    · simp only [List.mem_cons, List.not_mem_nil, or_false] at hkey
      exact hkey.elim hprimary (·.elim hauto (·.elim hno (·.elim hblob hskip)))
  all_goals cases value <;> simp [required, mark, Functor.map, Except.map, eq_comm]

/-- The marks of a list are those that it says. -/
theorem foldlM_add_eq_ok_iff (before : List Item) :
    items.foldlM add (said before) = .ok m ↔
      (∀ item ∈ items, item.IsWellFormed) ∧ m = said (before ++ items) := by
  -- the marks so far are those of the items before
  induction items generalizing before with
  | nil => simp [pure, Except.pure, eq_comm]
  | cons item items ih =>
    rw [List.foldlM_cons, List.forall_mem_cons]
    cases hadd : (said before).add item with
    | error e =>
      have hitem : ¬ item.IsWellFormed := by
        intro h
        rw [add_said_eq_ok_iff.mpr ⟨h, rfl⟩] at hadd
        cases hadd
      refine iff_of_false (fun h => by cases h) ?_
      rintro ⟨⟨h, -⟩, -⟩
      exact hitem h
    | ok m' =>
      obtain ⟨hitem, rfl⟩ := add_said_eq_ok_iff.mp hadd
      show items.foldlM add (said (before ++ [item])) = .ok m ↔ _
      rw [ih, List.append_assoc]
      simp [hitem]

/-- The marks of an accepted field say what its items say. -/
theorem eq_said_of_ofItems (h : ofItems items = .ok m) : m = said items := by
  unfold ofItems at h
  obtain ⟨m', hfold, hcheck⟩ := bind_eq_ok_iff.mp h
  have hm' : m' = said items := ((foldlM_add_eq_ok_iff []).mp hfold).2
  -- the check passes the marks on as they are
  unfold check at hcheck
  split at hcheck
  · cases hcheck
  · split at hcheck
    · cases hcheck
    · cases hcheck
      exact hm'

end FieldMarks

/-! ### Fields -/

namespace FieldDeclaration

/-- The items of a field; none if they are malformed. -/
def items (f : FieldDeclaration) : List Item :=
  match allItems f.attributes with
  | .ok items => items
  | .error _ => []

/-- Whether a field is left out of the row. -/
def isSkipped (f : FieldDeclaration) : Bool :=
  Item.isGiven "skip" f.items

/-- The column of a field: the one that its attributes name, or else one named after it. -/
def columnName (f : FieldDeclaration) : String :=
  (Item.lastValue? "column" f.items).getD f.ident

/-- Where a field that is accepted is stored. -/
def mapped (f : FieldDeclaration) : MappedField :=
  ⟨f.ident, if f.isSkipped then none
    else some ⟨f.columnName, (FieldMarks.said f.items).steps⟩⟩

/-- An accepted field is mapped to its identifier, its column and its type. -/
theorem eq_mapped_of_mapping {f : FieldDeclaration} {mf : MappedField} (h : f.mapping = .ok mf) :
    mf = f.mapped := by
  obtain ⟨m, hmarks, hmapped⟩ := bind_eq_ok_iff.mp h
  obtain ⟨given, hitems, hgiven⟩ := bind_eq_ok_iff.mp hmarks
  obtain rfl := FieldMarks.eq_said_of_ofItems hgiven
  unfold mapped isSkipped columnName items
  rw [hitems]
  -- a skipped field has no column
  cases hskip : Item.isGiven "skip" given with
  | true =>
    rw [show (FieldMarks.said given).skip = true from hskip] at hmapped
    cases hmapped
    rfl
  | false =>
    rw [show (FieldMarks.said given).skip = false from hskip] at hmapped
    cases hmapped
    rfl

end FieldDeclaration

/-! ### Types -/

/-- The fields of a type that is accepted are mapped one by one. -/
theorem TypeDeclaration.fields_of_mapping {t : TypeDeclaration} {fields : List FieldDeclaration}
    {m : Mapping} (named : t.form = .named fields) (accepted : t.mapping = .ok m) :
    m.fields = fields.map FieldDeclaration.mapped := by
  unfold TypeDeclaration.mapping at accepted
  rw [named] at accepted
  obtain ⟨items, -, h⟩ := bind_eq_ok_iff.mp accepted
  obtain ⟨table, -, h⟩ := bind_eq_ok_iff.mp h
  obtain ⟨mapped, hmapped, h⟩ := bind_eq_ok_iff.mp h
  cases h
  exact eq_map_of_mapM (fun f mf => FieldDeclaration.eq_mapped_of_mapping) hmapped

end RecordSql.Declaration
