import RecordSql.Proofs.Text.Utf8
import RecordSql.Text.SnakeCase

/-!
# What is left of a name in snake case

The words of a name are made of its letters and numbers, none of which is lost (`flatten_words`).
So a name in snake case is empty if and only if there are none (`snakeCase_eq_empty_iff`).  Its
characters are underscores and the lower case of the letters and numbers of the name, which are
letters and numbers again (`isAlphanumeric_of_isLowerOf`) but for one capital: the lower case of
the dotted `İ` has its dot as a character of its own (`isIdentifierChar_snakeCase_iff`).
-/

namespace RecordSql.Text

/-- Whether a character is a letter, a number or the underscore. -/
def isIdentifierChar (c : Char) : Bool :=
  isAlphanumeric c || c == '_'

/-! ### Words -/

/-- A run is cut, and nothing of it is lost. -/
theorem flatten_splitCase (w : WordCase) (word : List Char) (c : Char) (cs : List Char) :
    (splitCase w word (c :: cs)).flatten = word.reverse ++ c :: cs := by
  induction cs generalizing w word c with
  | nil => simp [splitCase]
  | cons d cs ih =>
    rw [splitCase]
    split
    · simp [ih]
    · split
      · simp [ih]
      · simp [ih]

theorem flatten_alphanumericRuns (run cs : List Char) :
    (alphanumericRuns run cs).flatten = run.reverse ++ cs.filter isAlphanumeric := by
  induction cs generalizing run with
  | nil => simp [alphanumericRuns]
  | cons c cs ih =>
    rw [alphanumericRuns]
    by_cases h : isAlphanumeric c = true
    · rw [if_pos h, ih, List.filter_cons_of_pos h]
      simp
    · rw [if_neg h, List.flatten_cons, ih, List.filter_cons_of_neg h]
      simp

/-- The words of a name are made of its letters and numbers. -/
theorem flatten_words (name : List Char) : (words name).flatten = name.filter isAlphanumeric := by
  have hsplit : ∀ run, (splitCase .uncased [] run).flatten = run := by
    intro run
    cases run with
    | nil => rfl
    | cons c cs => exact flatten_splitCase .uncased [] c cs
  unfold words
  rw [← List.flatMap_id', List.flatMap_assoc]
  simp only [List.flatMap_id', hsplit]
  exact flatten_alphanumericRuns [] name

/-- A name without letters and digits has no words. -/
theorem words_eq_nil {name : List Char} (h : ∀ c ∈ name, isAlphanumeric c = false) :
    words name = [] := by
  have hruns : (alphanumericRuns [] name).flatten = [] := by
    rw [flatten_alphanumericRuns, List.filter_eq_nil_iff.mpr (by simpa using h)]
    rfl
  refine List.flatMap_eq_nil_iff.mpr fun run hrun => ?_
  rw [List.flatten_eq_nil_iff.mp hruns run hrun]
  rfl

/-! ### Lower case -/

/-- What the lower case of a character in a word may hold. -/
def IsLowerOf (c d : Char) : Prop :=
  d ∈ toLower c ∨ c = 'Σ' ∧ d = 'ς'

theorem exists_isLowerOf_of_mem_lowerWord {word : List Char} {d : Char} (h : d ∈ lowerWord word) :
    ∃ c ∈ word, IsLowerOf c d := by
  fun_induction lowerWord word with
  | case1 => cases h
  | case2 =>
    obtain rfl := List.mem_singleton.mp h
    exact ⟨'Σ', by simp, .inr ⟨rfl, rfl⟩⟩
  | case3 c cs _ ih =>
    rcases List.mem_append.mp h with h | h
    · exact ⟨c, by simp, .inl h⟩
    · obtain ⟨c', hc', hd⟩ := ih h
      exact ⟨c', by simp [hc'], hd⟩

/-- A character of a word is there in lower case, in one of the forms that it has. -/
theorem mem_lowerWord_of_mem {word : List Char} {c : Char} (hc : c ∈ word) :
    (∀ d ∈ toLower c, d ∈ lowerWord word) ∨ c = 'Σ' ∧ 'ς' ∈ lowerWord word := by
  fun_induction lowerWord word with
  | case1 => cases hc
  | case2 =>
    obtain rfl := List.mem_singleton.mp hc
    exact .inr ⟨rfl, by simp⟩
  | case3 c' cs _ ih =>
    rcases List.mem_cons.mp hc with rfl | hc
    · exact .inl fun d hd => List.mem_append_left _ hd
    · rcases ih hc with h | ⟨rfl, h⟩
      · exact .inl fun d hd => List.mem_append_right _ (h d hd)
      · exact .inr ⟨rfl, List.mem_append_right _ h⟩

/-- Whether all of `lo`, …, `hi` are in one of the ranges. -/
def coversAll : List (Nat × Nat) → Nat → Nat → Bool
  | [], _, _ => false
  | (first, last) :: rest, lo, hi => first.ble lo && (hi.ble last || coversAll rest lo hi)

theorem covered_of_coversAll {ranges : List (Nat × Nat)} {lo hi n : Nat}
    (h : coversAll ranges lo hi = true) (hlo : lo ≤ n) (hhi : n ≤ hi) : covered ranges n = true := by
  induction ranges with
  | nil => cases h
  | cons range rest ih =>
    obtain ⟨first, last⟩ := range
    rw [coversAll, Bool.and_eq_true, Bool.or_eq_true, Nat.ble_eq, Nat.ble_eq] at h
    rw [covered, if_neg (by omega), Bool.or_eq_true, decide_eq_true_eq]
    rcases h.2 with h | h
    · exact .inl (by omega)
    · exact .inr (ih h)

/-- A code point stays what it is or moves with the run that it is in. -/
theorem lowerCode_cases (runs : List (Nat × Nat × Nat × Int)) (n : Nat) :
    lowerCode runs n = n ∨ ∃ first last step shift, (first, last, step, shift) ∈ runs ∧
      first ≤ n ∧ n ≤ last ∧ lowerCode runs n = (n + shift).toNat := by
  induction runs with
  | nil => exact .inl rfl
  | cons run rest ih =>
    obtain ⟨first, last, step, shift⟩ := run
    rw [lowerCode]
    split
    · exact .inl rfl
    · -- the runs are in order, so the search ends at the first one that starts behind the code
      split
      · next hlo hin =>
        rw [Bool.and_eq_true, decide_eq_true_eq] at hin
        exact .inr ⟨first, last, step, shift, by simp, by omega, hin.1, rfl⟩
      · rcases ih with h | ⟨first', last', step', shift', hmem, h⟩
        · exact .inl h
        · exact .inr ⟨first', last', step', shift', by simp [hmem], h⟩

/-- The runs of the mapping end in letters and numbers. -/
theorem lowerRuns_alphanumeric : ∀ run ∈ lowerRuns,
    coversAll alphanumericRanges (run.1 + run.2.2.2).toNat (run.2.1 + run.2.2.2).toNat = true ∧
      ((run.2.1 + run.2.2.2).toNat < 0xD800 ∨ 0xDFFF < (run.1 + run.2.2.2).toNat) ∧
      (run.2.1 + run.2.2.2).toNat < 0x110000 := by
  decide +kernel

theorem isAlphanumeric_ofNat_lowerCode {c : Char} (h : isAlphanumeric c = true) :
    isAlphanumeric (Char.ofNat (lowerCode lowerRuns c.toNat)) = true := by
  rcases lowerCode_cases lowerRuns c.toNat with hsame |
    ⟨first, last, step, shift, hrun, hfirst, hlast, hmoved⟩
  · rw [hsame, Char.ofNat_toNat]
    exact h
  · obtain ⟨hcovers, hscalar, hgreatest⟩ := lowerRuns_alphanumeric _ hrun
    dsimp only at hcovers hscalar hgreatest
    have hlo : (first + shift).toNat ≤ (c.toNat + shift).toNat := by omega
    have hhi : (c.toNat + shift).toNat ≤ (last + shift).toNat := by omega
    rw [hmoved, isAlphanumeric, Utf8.toNat_ofNat_char (by omega)]
    exact covered_of_coversAll hcovers hlo hhi

/-- The lower case of letters and numbers is made of such, but for the dot of the `İ`. -/
theorem isAlphanumeric_of_isLowerOf {c d : Char} (h : isAlphanumeric c = true) (hc : c ≠ 'İ')
    (hd : IsLowerOf c d) : isAlphanumeric d = true := by
  rcases hd with hd | ⟨-, rfl⟩
  · have hcode : c.toNat ≠ 0x130 := fun heq => hc (Char.toNat_inj.mp heq)
    rw [toLower, if_neg hcode, List.mem_singleton] at hd
    rw [hd]
    exact isAlphanumeric_ofNat_lowerCode h
  · decide

theorem toLower_ne_nil (c : Char) : toLower c ≠ [] := by
  unfold toLower
  split <;> simp

/-! ### Words with separators between them -/

theorem mem_intercalate_of_mem {sep part : List Char} {parts : List (List Char)} {d : Char}
    (hpart : part ∈ parts) (hd : d ∈ part) : d ∈ sep.intercalate parts := by
  induction parts with
  | nil => cases hpart
  | cons first parts ih =>
    cases parts with
    | nil =>
      obtain rfl := List.mem_singleton.mp hpart
      rwa [List.intercalate_singleton]
    | cons second parts =>
      rw [List.intercalate_cons_cons, List.mem_append, List.mem_append]
      rcases List.mem_cons.mp hpart with rfl | hpart
      · exact .inl (.inl hd)
      · exact .inr (ih hpart)

theorem of_mem_intercalate {sep : List Char} {parts : List (List Char)} {d : Char}
    (h : d ∈ sep.intercalate parts) : d ∈ sep ∨ ∃ part ∈ parts, d ∈ part := by
  induction parts with
  | nil => simp at h
  | cons first parts ih =>
    cases parts with
    | nil =>
      rw [List.intercalate_singleton] at h
      exact .inr ⟨first, by simp, h⟩
    | cons second parts =>
      rw [List.intercalate_cons_cons, List.mem_append, List.mem_append] at h
      rcases h with (h | h) | h
      · exact .inr ⟨first, by simp, h⟩
      · exact .inl h
      · rcases ih h with h | ⟨part, hpart, h⟩
        · exact .inl h
        · exact .inr ⟨part, List.mem_cons_of_mem _ hpart, h⟩

/-! ### Names -/

variable {name : String} {c d : Char}

/-- The words of a name are joined by underscores. -/
theorem toList_snakeCase (name : String) :
    (snakeCase name).toList = ['_'].intercalate ((words name.toList).map lowerWord) := by
  rw [snakeCase, String.toList_ofList]

/-- A character in snake case separates words or comes from a letter or a number. -/
theorem of_mem_snakeCase (h : d ∈ (snakeCase name).toList) :
    d = '_' ∨ ∃ c ∈ name.toList, isAlphanumeric c = true ∧ IsLowerOf c d := by
  rw [toList_snakeCase] at h
  rcases of_mem_intercalate h with h | ⟨part, hpart, h⟩
  · exact .inl (List.mem_singleton.mp h)
  · obtain ⟨word, hword, rfl⟩ := List.mem_map.mp hpart
    obtain ⟨c, hc, hlower⟩ := exists_isLowerOf_of_mem_lowerWord h
    have hmem : c ∈ (words name.toList).flatten := List.mem_flatten.mpr ⟨word, hword, hc⟩
    rw [flatten_words, List.mem_filter] at hmem
    exact .inr ⟨c, hmem.1, hmem.2, hlower⟩

/-- A letter or a number is there in snake case, in one of the forms that its lower case has. -/
theorem mem_snakeCase_of_mem (hc : c ∈ name.toList) (h : isAlphanumeric c = true) :
    (∀ d ∈ toLower c, d ∈ (snakeCase name).toList) ∨ c = 'Σ' ∧ 'ς' ∈ (snakeCase name).toList := by
  have hmem : c ∈ (words name.toList).flatten := by
    rw [flatten_words]
    exact List.mem_filter.mpr ⟨hc, h⟩
  obtain ⟨word, hword, hcWord⟩ := List.mem_flatten.mp hmem
  have hin {d : Char} (hd : d ∈ lowerWord word) : d ∈ (snakeCase name).toList := by
    rw [toList_snakeCase]
    exact mem_intercalate_of_mem (List.mem_map_of_mem hword) hd
  rcases mem_lowerWord_of_mem hcWord with hlower | ⟨rfl, hlower⟩
  · exact .inl fun d hd => hin (hlower d hd)
  · exact .inr ⟨rfl, hin hlower⟩

/-- **Nothing is left of a name if and only if it has no letters and numbers.** -/
theorem snakeCase_eq_empty_iff :
    snakeCase name = "" ↔ ∀ c ∈ name.toList, isAlphanumeric c = false := by
  rw [← String.toList_eq_nil_iff]
  constructor
  · intro h c hc
    rw [← Bool.not_eq_true]
    intro halpha
    -- a letter or digit leaves something of itself in the name
    rcases mem_snakeCase_of_mem hc halpha with hlower | ⟨-, hlower⟩
    · obtain ⟨d, hd⟩ := List.exists_mem_of_ne_nil _ (toLower_ne_nil c)
      have hmem : d ∈ (snakeCase name).toList := hlower d hd
      rw [h] at hmem
      cases hmem
    · rw [h] at hlower
      cases hlower
  · intro h
    rw [toList_snakeCase, words_eq_nil h]
    rfl

/-- **All characters are letters, numbers and underscores if and only if there is no dotted `İ`.** -/
theorem isIdentifierChar_snakeCase_iff :
    (∀ d ∈ (snakeCase name).toList, isIdentifierChar d = true) ↔ 'İ' ∉ name.toList := by
  constructor
  · intro h hmem
    rcases mem_snakeCase_of_mem hmem (by decide) with hlower | ⟨hsigma, -⟩
    · have hdot := h '\u0307' (hlower '\u0307' (by decide))
      revert hdot
      decide
    · exact absurd hsigma (by decide)
  · intro h d hd
    rw [isIdentifierChar, Bool.or_eq_true, beq_iff_eq]
    rcases of_mem_snakeCase hd with rfl | ⟨c, hc, halpha, hlower⟩
    · exact .inr rfl
    · exact .inl (isAlphanumeric_of_isLowerOf halpha (fun heq => h (heq ▸ hc)) hlower)

end RecordSql.Text
