import RecordSql.Proofs.Declaration.Marks
import RecordSql.Proofs.Text.SnakeCase

/-!
# The names of a mapping

The name of a table or of a column is given by an attribute, or else it is made from the identifier
of the type or of the field.  An attribute for a table is checked (`tableOf_eq_ok`), one for a column
is not; what is made from an identifier is not checked either.  `names_usable_iff` says exactly when
the names of an accepted declaration are usable: not empty and, where they come from identifiers,
made of letters, numbers and underscores.
-/

namespace RecordSql.Declaration

/-! ### Identifiers -/

/-- Whether a text is an identifier, with the mark `r#` if it is a raw one. -/
def IsIdentifier (text : String) : Prop :=
  takeWord text.toList = some (text, []) ∧ text ∉ keywords

instance (text : String) : Decidable (IsIdentifier text) :=
  inferInstanceAs (Decidable (_ ∧ _))

/-- Whether an identifier has the mark of a raw one. -/
def IsRaw (text : String) : Prop :=
  ['r', '#'] <+: text.toList

instance (text : String) : Decidable (IsRaw text) :=
  inferInstanceAs (Decidable (_ <+: _))

variable {text : String}

theorem IsIdentifier.ne_empty (h : IsIdentifier text) : text ≠ "" := by
  rintro rfl
  exact absurd h.1 (by decide)

/-- Every character of a word that is taken can go on with an identifier. -/
theorem isIdentifierContinue_of_takeIdentifier {cs word rest : List Char}
    (h : Text.takeIdentifier cs = some (word, rest)) :
    ∀ c ∈ word, Text.isIdentifierContinue c = true := by
  cases cs with
  | nil => cases h
  | cons first cs =>
    rw [Text.takeIdentifier] at h
    split at h
    · next hstart =>
      cases h
      intro c hc
      rcases List.mem_cons.mp hc with rfl | hc
      · rw [Text.isIdentifierContinue, hstart, Bool.true_or]
      · exact List.all_eq_true.mp List.all_takeWhile c hc
    · cases h

/-- An identifier without the mark has nothing else in it. -/
theorem IsIdentifier.isIdentifierContinue (h : IsIdentifier text) (hraw : ¬ IsRaw text) :
    ∀ c ∈ text.toList, Text.isIdentifierContinue c = true := by
  have hword := h.1
  unfold takeWord at hword
  split at hword
  · cases hword
  · split at hword
    · next marked hmarked => exact absurd ⟨marked, hmarked.symm⟩ hraw
    · obtain ⟨⟨name, rest⟩, hname, heq⟩ := Option.map_eq_some_iff.mp hword
      obtain ⟨rfl, rfl⟩ := Prod.mk.inj heq
      rw [String.toList_ofList]
      exact isIdentifierContinue_of_takeIdentifier hname

/-- The mark is no part of a name. -/
theorem isIdentifierChar_iff (h : IsIdentifier text) :
    (∀ c ∈ text.toList, Text.isIdentifierChar c = true) ↔ ¬ IsRaw text ∧
      ∀ c ∈ text.toList, Text.isIdentifierContinue c = true → Text.isIdentifierChar c = true := by
  constructor
  · intro hall
    refine ⟨?_, fun c hc _ => hall c hc⟩
    rintro ⟨rest, hrest⟩
    have hmark := hall '#' (by rw [← hrest]; simp)
    revert hmark
    decide
  · rintro ⟨hraw, hall⟩ c hc
    exact hall c hc (h.isIdentifierContinue hraw c hc)

/-! ### Names from attributes -/

/-- The items of a type; none if they are malformed. -/
def TypeDeclaration.items (t : TypeDeclaration) : List Item :=
  match allItems t.attributes with
  | .ok items => items
  | .error _ => []

/-- The table that the attributes of a type name. -/
def TypeDeclaration.namedTable (t : TypeDeclaration) : Option String :=
  Item.lastValue? "table" t.items

/-- The column that the attributes of a field name. -/
def FieldDeclaration.namedColumn (f : FieldDeclaration) : Option String :=
  Item.lastValue? "column" f.items

/-- The last table counts, and none has an empty name. -/
theorem tableOf_eq_ok {before items : List Item} {table : Option String}
    (hbefore : Item.lastValue? "table" before ≠ some "")
    (h : tableOf (Item.lastValue? "table" before) items = .ok table) :
    table = Item.lastValue? "table" (before ++ items) ∧ table ≠ some "" := by
  -- the table so far is the one that the items before name
  induction items generalizing before with
  | nil =>
    cases h
    rw [List.append_nil]
    exact ⟨rfl, hbefore⟩
  | cons item items ih =>
    rw [tableOf] at h
    split at h
    · next hkey =>
      obtain ⟨name, hname, h⟩ := bind_eq_ok_iff.mp h
      have hvalue : item.value = some name := by
        unfold Item.required at hname
        split at hname
        · next hvalue =>
          cases hname
          exact hvalue
        · cases hname
      split at h
      · cases h
      · next hnonempty =>
        have hlast : Item.lastValue? "table" (before ++ [item]) = some name := by
          rw [Item.lastValue?_append_singleton, if_pos hkey, hvalue]
        rw [← hlast] at h
        have hne : Item.lastValue? "table" (before ++ [item]) ≠ some "" := by
          rw [hlast]
          rintro ⟨⟩
          exact hnonempty rfl
        rw [List.append_cons]
        exact ih hne h
    · cases h

/-! ### Accepted declarations -/

section Accepted

variable {t : TypeDeclaration} {fields : List FieldDeclaration} {m : Mapping}

/-- The table of a type that is accepted, and that an attribute gives it no empty name. -/
theorem table_of_mapping (accepted : t.mapping = .ok m) :
    m.table = t.namedTable.getD (Text.snakeCase t.name) ∧ t.namedTable ≠ some "" := by
  unfold TypeDeclaration.mapping at accepted
  split at accepted
  · cases accepted
  · cases accepted
  · obtain ⟨items, hitems, h⟩ := bind_eq_ok_iff.mp accepted
    obtain ⟨table, htable, h⟩ := bind_eq_ok_iff.mp h
    obtain ⟨mapped, -, h⟩ := bind_eq_ok_iff.mp h
    cases h
    have hnone : Item.lastValue? "table" [] = none := rfl
    rw [← hnone] at htable
    obtain ⟨hlast, hne⟩ := tableOf_eq_ok (by rw [hnone]; simp) htable
    have hnamed : t.namedTable = table := by
      rw [TypeDeclaration.namedTable, TypeDeclaration.items, hitems]
      exact hlast.symm
    rw [hnamed]
    exact ⟨rfl, hne⟩

/-- The stored columns of an accepted declaration are those of the fields that are not skipped, in
order. -/
theorem stored_of_mapping (named : t.form = .named fields) (accepted : t.mapping = .ok m) :
    m.stored.map (fun c => (c.1, c.2.name)) =
      (fields.filter (!·.isSkipped)).map fun f => (f.ident, f.columnName) := by
  rw [Mapping.stored, TypeDeclaration.fields_of_mapping named accepted, List.filterMap_map,
    List.map_filterMap, ← List.filterMap_eq_map, List.filterMap_filter]
  congr 1
  funext f
  unfold FieldDeclaration.mapped
  cases h : f.isSkipped <;> simp [h]

end Accepted

/-! ### Usable names -/

/-- Whether a name is usable, when an attribute gives it or it is made from an identifier. -/
def IsUsable (given : Option String) (name : String) : Prop :=
  name ≠ "" ∧ (given = none → ∀ c ∈ name.toList, Text.isIdentifierChar c = true)

/-- **When the names of an accepted declaration are usable.**  The table is, if an attribute names it
or the name of the type has a letter or a number, and no dotted `İ`.  A column is, if an attribute
gives it a name that is not empty, or its field is no raw identifier and has no characters besides
letters, numbers and underscores. -/
theorem names_usable_iff {t : TypeDeclaration} {fields : List FieldDeclaration} {m : Mapping}
    (named : t.form = .named fields) (identifiers : ∀ f ∈ fields, IsIdentifier f.ident)
    (accepted : t.mapping = .ok m) :
    (IsUsable t.namedTable m.table ↔ t.namedTable = none →
      (∃ c ∈ t.name.toList, Text.isAlphanumeric c = true) ∧ 'İ' ∉ t.name.toList) ∧
    m.stored.map (fun c => (c.1, c.2.name)) =
      (fields.filter (!·.isSkipped)).map (fun f => (f.ident, f.columnName)) ∧
    ∀ f ∈ fields, IsUsable f.namedColumn f.columnName ↔ f.namedColumn ≠ some "" ∧
      (f.namedColumn = none → ¬ IsRaw f.ident ∧ ∀ c ∈ f.ident.toList,
        Text.isIdentifierContinue c = true → Text.isIdentifierChar c = true) := by
  obtain ⟨htable, hne⟩ := table_of_mapping accepted
  refine ⟨?_, stored_of_mapping named accepted, fun f hf => ?_⟩
  · rw [htable]
    cases hnamed : t.namedTable with
    | some name =>
      rw [hnamed] at hne
      refine iff_of_true ⟨fun heq => hne (congrArg some heq), by simp⟩ (by simp)
    | none =>
      -- the name is made from the identifier by the rule for words
      simp only [IsUsable, Option.getD_none, forall_const]
      rw [Text.isIdentifierChar_snakeCase_iff, ne_eq, Text.snakeCase_eq_empty_iff]
      simp
  · have hident := identifiers f hf
    unfold FieldDeclaration.columnName
    cases hnamed : f.namedColumn with
    | some name =>
      rw [show Item.lastValue? "column" f.items = some name from hnamed]
      simp [IsUsable]
    | none =>
      rw [show Item.lastValue? "column" f.items = none from hnamed]
      simp only [IsUsable, Option.getD_none, forall_const]
      rw [isIdentifierChar_iff hident]
      simp [hident.ne_empty]

/-- A raw field with a column of its own, beside one that is named as it is. -/
theorem names_usable_iff_entry :
    let id : FieldDeclaration := ⟨"id", [.list [.word "auto_key"]]⟩
    let kind : FieldDeclaration := ⟨"r#type", [.list [.word "column", .equals, .string "type"]]⟩
    let t : TypeDeclaration := ⟨"HTTPLog2Entry", [], .named [id, kind]⟩
    let m : Mapping := ⟨"http_log2_entry", [⟨"id", some ⟨"id", some [.start .generatedKey]⟩⟩,
      ⟨"r#type", some ⟨"type", none⟩⟩]⟩
    t.mapping = .ok m ∧ IsIdentifier "id" ∧ IsIdentifier "r#type" ∧
      IsUsable t.namedTable m.table ∧ IsUsable id.namedColumn id.columnName ∧
      IsUsable kind.namedColumn kind.columnName := by
  intro id kind t m
  have hsnake : Text.snakeCase "HTTPLog2Entry" = "http_log2_entry" := by decide
  have accepted : t.mapping = .ok m := by
    show Except.ok (Mapping.mk (Text.snakeCase "HTTPLog2Entry") m.fields) = .ok m
    rw [hsnake]
  have hid : IsIdentifier "id" := by decide
  have htype : IsIdentifier "r#type" := by decide
  have identifiers : ∀ f ∈ [id, kind], IsIdentifier f.ident :=
    List.forall_mem_cons.mpr ⟨hid, List.forall_mem_singleton.mpr htype⟩
  obtain ⟨htable, -, hcolumns⟩ := names_usable_iff rfl identifiers accepted
  have hletters : (∃ c ∈ "HTTPLog2Entry".toList, Text.isAlphanumeric c = true) ∧
      'İ' ∉ "HTTPLog2Entry".toList := ⟨⟨'H', by decide, by decide⟩, by decide⟩
  have hkind : kind.namedColumn = some "type" := rfl
  have hchars : "id".toList.all Text.isIdentifierChar = true := by decide
  have hplain : ¬ IsRaw "id" ∧ ∀ c ∈ "id".toList,
      Text.isIdentifierContinue c = true → Text.isIdentifierChar c = true :=
    ⟨by decide, fun c hc _ => List.all_eq_true.mp hchars c hc⟩
  refine ⟨accepted, hid, htype, htable.mpr fun _ => hletters, ?_, ?_⟩
  · exact (hcolumns id (by simp)).mpr ⟨by decide, fun _ => hplain⟩
  · refine (hcolumns kind (by simp)).mpr ⟨by rw [hkind]; decide, fun h => ?_⟩
    rw [hkind] at h
    cases h

/-- A type whose name is made of underscores alone is stored in a table without a name. -/
theorem table_underscores_empty :
    let t : TypeDeclaration := ⟨"__", [], .named [⟨"id", []⟩]⟩
    IsIdentifier "__" ∧ IsIdentifier "id" ∧
      ∃ m, t.mapping = .ok m ∧ ¬ IsUsable t.namedTable m.table := by
  refine ⟨by decide, by decide, _, rfl, fun h => h.1 rfl⟩

end RecordSql.Declaration
