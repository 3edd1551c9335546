import RecordSql.Proofs.Declaration.Marks

/-!
# The column of a field

Which items a field may have, and what its column is then, depends on which items there are and on
the last of those that name a column or a type.  `FieldDeclaration.mapping_eq_ok_iff` says when the
items are accepted, `FieldMarks.map_buildOptions_steps` what the planned steps build in every
dialect, and both together that order and repetition do not matter (`column_of_items`).
-/

namespace RecordSql.Declaration

/-! ### Items that go together -/

namespace Item

/-- The keys that call for column options. -/
def optionKeys : List String := ["primary_key", "auto_key", "no_insert", "blob", "sql_type"]

/-- Items that a field may have. -/
structure AreCompatible (items : List Item) : Prop where
  wellFormed : ∀ item ∈ items, item.IsWellFormed
  skip_alone : isGiven "skip" items = true → ∀ item ∈ items, item.key = "skip"
  key_or_blob : ¬ (isGiven "auto_key" items = true ∧ isGiven "blob" items = true)

variable {items items' : List Item} {key : String}

theorem isGiven_iff : isGiven key items = true ↔ ∃ item ∈ items, item.key = key := by
  simp [isGiven]

/-- Whether a key is given depends only on which items there are. -/
theorem isGiven_congr (same : ∀ item, item ∈ items' ↔ item ∈ items) (key : String) :
    isGiven key items' = isGiven key items := by
  rw [Bool.eq_iff_iff, isGiven_iff, isGiven_iff]
  simp only [same]

/-- An item whose key takes a value has one. -/
theorem IsWellFormed.value_ne_none {item : Item} (h : item.IsWellFormed)
    (hkey : item.key ∈ valueKeys) : item.value ≠ none := by
  rcases h with ⟨-, hvalue⟩ | ⟨hmark, -⟩
  · exact hvalue
  · have disjoint : ∀ key ∈ markKeys, key ∉ valueKeys := by decide
    exact absurd hkey (disjoint item.key hmark)

/-- A well-formed item that is not `skip` calls for options or names the column. -/
theorem IsWellFormed.key_ne_skip_iff {item : Item} (h : item.IsWellFormed) :
    item.key ≠ "skip" ↔ item.key ∈ "column" :: optionKeys := by
  have known : ∀ key ∈ valueKeys ++ markKeys, key ≠ "skip" ↔ key ∈ "column" :: optionKeys := by
    decide
  refine known item.key (List.mem_append.mpr ?_)
  rcases h with ⟨hkey, -⟩ | ⟨hkey, -⟩
  · exact .inl hkey
  · exact .inr hkey

/-- A key that takes a value has one if it is given. -/
theorem isSome_lastValue? (formed : ∀ item ∈ items, item.IsWellFormed) (hkey : key ∈ valueKeys) :
    (lastValue? key items).isSome = isGiven key items := by
  unfold lastValue?
  rw [Bool.eq_iff_iff, isGiven_iff]
  cases hlast : (items.filter (·.key = key)).getLast? with
  | none =>
    have hnone : items.filter (·.key = key) = [] := List.getLast?_eq_none_iff.mp hlast
    refine iff_of_false (by simp) ?_
    rintro ⟨item, hitem, hitemKey⟩
    have hmem : item ∈ items.filter (·.key = key) := by simp [hitem, hitemKey]
    simp [hnone] at hmem
  -- the last item of the key has a value, since the key takes one
  | some last =>
    have hmem : last ∈ items.filter (·.key = key) := List.mem_of_getLast? hlast
    obtain ⟨hlastMem, hlastKey⟩ := by simpa using hmem
    refine iff_of_true ?_ ⟨last, hlastMem, hlastKey⟩
    rw [Option.bind_some, Option.isSome_iff_ne_none]
    exact (formed last hlastMem).value_ne_none (by rw [hlastKey]; exact hkey)

/-- Neither the order of the items nor their repetition matters to whether they go together. -/
theorem areCompatible_congr (same : ∀ item, item ∈ items' ↔ item ∈ items) :
    AreCompatible items' ↔ AreCompatible items := by
  have hgiven := isGiven_congr same
  constructor
  · rintro ⟨hformed, hskip, hkey⟩
    simp only [same, hgiven] at hformed hskip hkey
    exact ⟨hformed, hskip, hkey⟩
  · rintro ⟨hformed, hskip, hkey⟩
    simp only [← same, ← hgiven] at hformed hskip hkey
    exact ⟨hformed, hskip, hkey⟩

end Item

namespace FieldMarks

open Item

variable {items items' : List Item}

/-- A column has options exactly if an item gives one of them. -/
theorem hasOptions_said (formed : ∀ item ∈ items, item.IsWellFormed) :
    (said items).hasOptions = optionKeys.any (isGiven · items) := by
  have htype : (lastValue? "sql_type" items).isSome = isGiven "sql_type" items :=
    isSome_lastValue? formed (by decide)
  unfold hasOptions said optionKeys
  rw [htype]
  simp [Bool.or_assoc]

/-- An item besides `skip` shows in the marks. -/
theorem hasMarks_said (formed : ∀ item ∈ items, item.IsWellFormed) :
    ((said items).hasOptions || (said items).column.isSome) = true ↔
      ∃ item ∈ items, item.key ≠ "skip" := by
  have hcolumn : (said items).column.isSome = isGiven "column" items :=
    isSome_lastValue? formed (by decide)
  rw [hasOptions_said formed, hcolumn, Bool.or_comm, ← List.any_cons (f := (isGiven · items)),
    List.any_eq_true]
  simp only [isGiven_iff]
  constructor
  · rintro ⟨_, hkey, item, hitem, rfl⟩
    exact ⟨item, hitem, (formed item hitem).key_ne_skip_iff.mpr hkey⟩
  · rintro ⟨item, hitem, hkey⟩
    exact ⟨item.key, (formed item hitem).key_ne_skip_iff.mp hkey, item, hitem, rfl⟩

/-- Marks pass the check if the items go together. -/
theorem check_said_eq_ok_iff {m : FieldMarks} (formed : ∀ item ∈ items, item.IsWellFormed) :
    (said items).check = .ok m ↔ AreCompatible items ∧ m = said items := by
  have hskip : ((said items).skip &&
      ((said items).hasOptions || (said items).column.isSome)) = true ↔
      isGiven "skip" items = true ∧ ∃ item ∈ items, item.key ≠ "skip" := by
    rw [Bool.and_eq_true, hasMarks_said formed]
    rfl
  have hkey : ((said items).autoKey && (said items).blob) = true ↔
      isGiven "auto_key" items = true ∧ isGiven "blob" items = true := by
    rw [Bool.and_eq_true]
    rfl
  unfold check
  -- the two checks are made in this order, and a list that passes both is compatible
  by_cases hs : isGiven "skip" items = true ∧ ∃ item ∈ items, item.key ≠ "skip"
  · rw [if_pos (hskip.mpr hs)]
    refine iff_of_false (by simp) ?_
    rintro ⟨compatible, -⟩
    obtain ⟨item, hitem, hother⟩ := hs.2
    exact hother (compatible.skip_alone hs.1 item hitem)
  rw [if_neg (mt hskip.mp hs)]
  by_cases hk : isGiven "auto_key" items = true ∧ isGiven "blob" items = true
  · rw [if_pos (hkey.mpr hk)]
    refine iff_of_false (by simp) ?_
    rintro ⟨compatible, -⟩
    exact compatible.key_or_blob hk
  rw [if_neg (mt hkey.mp hk), Except.ok.injEq, eq_comm]
  have compatible : AreCompatible items := by
    refine ⟨formed, fun hgiven item hitem => ?_, hk⟩
    exact Decidable.byContradiction fun hother => hs ⟨hgiven, item, hitem, hother⟩
  exact ⟨fun h => ⟨compatible, h⟩, And.right⟩

/-- The items of a field are accepted if they go together. -/
theorem ofItems_eq_ok_iff {m : FieldMarks} :
    ofItems items = .ok m ↔ AreCompatible items ∧ m = said items := by
  constructor
  · intro h
    obtain ⟨m', hfold, hcheck⟩ := bind_eq_ok_iff.mp h
    obtain ⟨hformed, rfl⟩ := (foldlM_add_eq_ok_iff []).mp hfold
    exact (check_said_eq_ok_iff hformed).mp hcheck
  · rintro ⟨h, rfl⟩
    have hfold : items.foldlM add (said []) = .ok (said items) :=
      (foldlM_add_eq_ok_iff []).mpr ⟨h.wellFormed, rfl⟩
    exact bind_eq_ok_iff.mpr ⟨said items, hfold, (check_said_eq_ok_iff h.wellFormed).mpr ⟨h, rfl⟩⟩

/-- What the steps build: a declared type comes before that of a generated key, and that one before
that of binary data. -/
theorem map_buildOptions_steps (m : FieldMarks) (d : Dialect) :
    m.steps.map (buildOptions · d) =
      if m.hasOptions then
        some ⟨m.sqlType <|> if m.autoKey then some d.keyType
            else if m.blob then some d.blobType else none,
          m.noInsert || m.autoKey, m.primaryKey || m.autoKey⟩
      else none := by
  unfold steps
  cases m.hasOptions with
  | false => rfl
  | true =>
    obtain ⟨column, sqlType, primaryKey, autoKey, noInsert, blob, skip⟩ := m
    cases sqlType <;> cases primaryKey <;> cases autoKey <;> cases noInsert <;> cases blob <;> rfl

/-- What the items say is told by which there are, and by the last value of the two keys that take
one. -/
theorem said_congr (same : ∀ item, item ∈ items' ↔ item ∈ items)
    (column : lastValue? "column" items' = lastValue? "column" items)
    (sqlType : lastValue? "sql_type" items' = lastValue? "sql_type" items) :
    said items' = said items := by
  unfold said
  simp only [isGiven_congr same, column, sqlType]

end FieldMarks

/-! ### Columns -/

namespace FieldDeclaration

open Item

variable {f g : FieldDeclaration} {items items' : List Item} {mf : MappedField}

theorem items_of_allItems (read : allItems f.attributes = .ok items) : f.items = items := by
  rw [FieldDeclaration.items, read]

/-- A field is accepted if its items go together. -/
theorem mapping_eq_ok_iff (read : allItems f.attributes = .ok items) :
    f.mapping = .ok mf ↔ AreCompatible items ∧ mf = f.mapped := by
  constructor
  · intro h
    refine ⟨?_, eq_mapped_of_mapping h⟩
    obtain ⟨m, hmarks, -⟩ := bind_eq_ok_iff.mp h
    obtain ⟨given, hgiven, hmarks⟩ := bind_eq_ok_iff.mp hmarks
    rw [read] at hgiven
    cases hgiven
    exact (FieldMarks.ofItems_eq_ok_iff.mp hmarks).1
  · -- what is accepted maps to what the items say
    rintro ⟨compatible, rfl⟩
    have hmarks : FieldMarks.ofAttributes f.attributes = .ok (FieldMarks.said items) :=
      bind_eq_ok_iff.mpr ⟨items, read, FieldMarks.ofItems_eq_ok_iff.mpr ⟨compatible, rfl⟩⟩
    unfold mapping mapped isSkipped columnName
    rw [hmarks, items_of_allItems read]
    show (if isGiven "skip" items = true then _ else _) = _
    cases isGiven "skip" items <;> rfl

/-- The column of a field that is accepted. -/
theorem column?_mapped (read : allItems f.attributes = .ok items)
    (formed : ∀ item ∈ items, item.IsWellFormed) (stored : isGiven "skip" items = false)
    (cell : FieldType × Value) (d : Dialect) :
    (f.mapped.field cell).column? d = some ⟨(lastValue? "column" items).getD f.ident, cell.2,
      if optionKeys.any (isGiven · items) then
        some ⟨lastValue? "sql_type" items <|> if isGiven "auto_key" items then some d.keyType
            else if isGiven "blob" items then some d.blobType else none,
          isGiven "no_insert" items || isGiven "auto_key" items,
          isGiven "primary_key" items || isGiven "auto_key" items⟩
      else none⟩ := by
  unfold mapped isSkipped columnName
  rw [items_of_allItems read, stored]
  show some (Column.mk _ _ ((FieldMarks.said items).steps.map (buildOptions · d))) = _
  rw [FieldMarks.map_buildOptions_steps, FieldMarks.hasOptions_said formed]
  rfl

/-- **The items of a field mean the same in any order.**  They are accepted if they go together, and
the column that they describe depends on which of them there are and on the last column and the last
type that they name. -/
theorem column_of_items (read : allItems f.attributes = .ok items) :
    ((∃ mf, f.mapping = .ok mf) ↔ AreCompatible items) ∧
    (∀ mf cell d, f.mapping = .ok mf →
      if isGiven "skip" items then (mf.field cell).column? d = none
      else ∃ column, (mf.field cell).column? d = some column ∧
        column.name = (lastValue? "column" items).getD f.ident ∧ column.value = cell.2 ∧
        (column.isPrimaryKey = true ↔
          isGiven "primary_key" items = true ∨ isGiven "auto_key" items = true) ∧
        (column.noInsert = true ↔
          isGiven "no_insert" items = true ∨ isGiven "auto_key" items = true) ∧
        column.options.bind (·.sqlType) = (lastValue? "sql_type" items <|>
          if isGiven "auto_key" items then some d.keyType
          else if isGiven "blob" items then some d.blobType else none) ∧
        (column.options = none ↔ ∀ key ∈ optionKeys, isGiven key items = false)) ∧
    ∀ (g : FieldDeclaration) items', g.ident = f.ident → allItems g.attributes = .ok items' →
      (∀ item, item ∈ items' ↔ item ∈ items) →
      lastValue? "column" items' = lastValue? "column" items →
      lastValue? "sql_type" items' = lastValue? "sql_type" items →
      ∀ mf, g.mapping = .ok mf ↔ f.mapping = .ok mf := by
  refine ⟨?_, ?_, ?_⟩
  · constructor
    · rintro ⟨mf, h⟩
      exact ((mapping_eq_ok_iff read).mp h).1
    · exact fun compatible => ⟨f.mapped, (mapping_eq_ok_iff read).mpr ⟨compatible, rfl⟩⟩
  · intro mf cell d accepted
    obtain ⟨compatible, rfl⟩ := (mapping_eq_ok_iff read).mp accepted
    cases hskip : isGiven "skip" items with
    | true =>
      unfold mapped isSkipped
      rw [items_of_allItems read, hskip]
      rfl
    | false =>
      refine ⟨_, column?_mapped read compatible.wellFormed hskip cell d, rfl, rfl, ?_⟩
      have htype : (lastValue? "sql_type" items).isSome = isGiven "sql_type" items :=
        isSome_lastValue? compatible.wellFormed (by decide)
      -- without options the column has neither a type nor marks
      cases hoptions : optionKeys.any (isGiven · items) with
      | true =>
        obtain ⟨key, hkey, hgiven⟩ := List.any_eq_true.mp hoptions
        refine ⟨by simp [Column.isPrimaryKey], by simp [Column.noInsert], rfl, ?_⟩
        refine iff_of_false (by simp) fun hnone => ?_
        rw [hnone key hkey] at hgiven
        cases hgiven
      | false =>
        have hnone : ∀ key ∈ optionKeys, isGiven key items = false := by simpa using hoptions
        obtain ⟨hprimary, hauto, hno, hblob, hdeclared⟩ := by simpa [optionKeys] using hnone
        have hlast : lastValue? "sql_type" items = none := by simpa [hdeclared] using htype
        refine ⟨by simp [Column.isPrimaryKey, hprimary, hauto], by simp [Column.noInsert, hno, hauto],
          by simp [hlast, hauto, hblob], ?_⟩
        exact iff_of_true rfl hnone
  · intro g items' ident read' same column sqlType mf
    -- the mapping is told by what the items say, and that by which there are
    have hmapped : g.mapped = f.mapped := by
      unfold mapped isSkipped columnName
      rw [items_of_allItems read, items_of_allItems read', ident, column, isGiven_congr same,
        FieldMarks.said_congr same column sqlType]
    rw [mapping_eq_ok_iff read, mapping_eq_ok_iff read', hmapped, areCompatible_congr same]

/-- A field with three attributes, and the same items once more in another order. -/
theorem column_of_items_reordered :
    let f : FieldDeclaration := ⟨"id", [.list [.word "auto_key"],
      .list [.word "sql_type", .equals, .string "INT", .comma, .word "no_insert"],
      .list [.word "sql_type", .equals, .string "BIGINT", .comma]]⟩
    let g : FieldDeclaration := ⟨"id", [.list [.word "no_insert", .comma, .word "sql_type", .equals,
      .string "INT", .comma, .word "sql_type", .equals, .string "BIGINT", .comma, .word "no_insert",
      .comma, .word "auto_key"]]⟩
    ∃ mf, f.mapping = .ok mf ∧ g.mapping = .ok mf ∧
      (mf.field (⟨.int .i64, false⟩, .null)).column? .postgres =
        some ⟨"id", .null, some ⟨some "BIGINT", true, true⟩⟩ := by
  intro f g
  let given : List Item := [⟨"auto_key", none⟩, ⟨"sql_type", some "INT"⟩, ⟨"no_insert", none⟩,
    ⟨"sql_type", some "BIGINT"⟩]
  let again : List Item := [⟨"no_insert", none⟩, ⟨"sql_type", some "INT"⟩,
    ⟨"sql_type", some "BIGINT"⟩, ⟨"no_insert", none⟩, ⟨"auto_key", none⟩]
  have read : allItems f.attributes = .ok given := rfl
  have read' : allItems g.attributes = .ok again := rfl
  obtain ⟨haccepted, hcolumn, hsame⟩ := column_of_items read
  have compatible : AreCompatible given := ⟨by decide, by decide, by decide⟩
  obtain ⟨mf, accepted⟩ := haccepted.mpr compatible
  have same : ∀ item, item ∈ again ↔ item ∈ given := by
    intro item
    simp only [given, again, List.mem_cons, List.not_mem_nil, or_false]
    grind
  refine ⟨mf, accepted, (hsame g again rfl read' same rfl rfl mf).mpr accepted, ?_⟩
  obtain rfl := eq_mapped_of_mapping accepted
  rfl

end FieldDeclaration

end RecordSql.Declaration
