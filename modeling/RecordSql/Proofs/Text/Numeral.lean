import RecordSql.Value.Field

/-!
# Integers from their numerals

The numeral of an integer is read back as the integer (`readInt?_numeral`).  It has no blanks to trim, so
a field of 128 bits reads the text of an integer as that integer (`integer?_showInt`).
-/

namespace RecordSql

/-- A value that denotes an integer is read as it. -/
theorem Scalar.readInt_of_denoted? {t : IntType} {v : Value} {n : Ranged t}
    (h : v.denoted? = some n.val) : readInt t v = .ok (.int t n) := by
  rw [readInt, h]
  dsimp only
  rw [n.ofInt?_val]

namespace Text

/-! ### Digits and signs -/

theorem isDigit_of_mem_toDigits {n : Nat} {c : Char} (h : c ∈ Nat.toDigits 10 n) :
    c.isDigit = true :=
  Nat.isDigit_of_mem_toDigits (by decide) (by decide) h

theorem readNat?_toDigits (n : Nat) : readNat? (Nat.toDigits 10 n) = some n := by
  have hall : (Nat.toDigits 10 n).all Char.isDigit = true :=
    List.all_eq_true.mpr fun c hc => isDigit_of_mem_toDigits hc
  have hempty : (Nat.toDigits 10 n).isEmpty = false := by
    rw [List.isEmpty_eq_false_iff]
    exact Nat.toDigits_ne_nil
  rw [readNat?, hall, hempty, Nat.ofDigitChars_ten_toDigits]
  rfl

/-- A sign is no digit. -/
theorem readInt?_of_isDigit {c : Char} (h : c.isDigit = true) (cs : List Char) :
    readInt? (c :: cs) = (readNat? (c :: cs)).map fun n => (n : Int) := by
  unfold readInt?
  split
  · rename_i heq
    cases heq
    exact absurd h (by decide)
  · rename_i heq
    cases heq
    exact absurd h (by decide)
  · rfl

/-- The numeral of an integer is read as the integer. -/
theorem readInt?_numeral (n : Int) : readInt? (numeral n) = some n := by
  cases n with
  | ofNat n =>
    obtain ⟨c, cs, hdigits⟩ := List.exists_cons_of_ne_nil (Nat.toDigits_ne_nil (n := n) (b := 10))
    have hc : c.isDigit = true := isDigit_of_mem_toDigits (hdigits ▸ List.mem_cons_self)
    rw [numeral, hdigits, readInt?_of_isDigit hc, ← hdigits, readNat?_toDigits]
    rfl
  | negSucc n =>
    rw [numeral]
    show (readNat? (Nat.toDigits 10 (n + 1))).map (fun n => -(n : Int)) = _
    rw [readNat?_toDigits]
    rfl

/-! ### Blanks -/

/-- Between the space and the controls behind ASCII there are no blanks. -/
theorem isBlank_eq_false {c : Char} (lower : 0x20 < c.toNat) (upper : c.toNat < 0x85) :
    isBlank c = false := by
  have h₁ : ¬ c.toNat < 0x9 := by omega
  have h₂ : ¬ c.toNat ≤ 0xD := by omega
  have h₃ : ¬ c.toNat < 0x20 := by omega
  have h₄ : ¬ c.toNat ≤ 0x20 := by omega
  simp only [isBlank, blankRanges, covered, h₁, h₂, h₃, h₄, upper, if_true, if_false, decide_false,
    Bool.false_or]

theorem isBlank_of_isDigit {c : Char} (h : c.isDigit = true) : isBlank c = false := by
  rw [Char.isDigit, Bool.and_eq_true, decide_eq_true_eq, decide_eq_true_eq] at h
  have lower : 48 ≤ c.toNat := h.1
  have upper : c.toNat ≤ 57 := h.2
  exact isBlank_eq_false (by omega) (by omega)

theorem isBlank_of_mem_numeral {n : Int} {c : Char} (h : c ∈ numeral n) : isBlank c = false := by
  cases n with
  | ofNat n => exact isBlank_of_isDigit (isDigit_of_mem_toDigits h)
  | negSucc n =>
    rcases List.mem_cons.mp h with rfl | hc
    · exact isBlank_eq_false (by decide) (by decide)
    · exact isBlank_of_isDigit (isDigit_of_mem_toDigits hc)

theorem dropWhile_isBlank_eq {cs : List Char} (h : ∀ c ∈ cs, isBlank c = false) :
    cs.dropWhile isBlank = cs := by
  cases cs with
  | nil => rfl
  | cons c cs => rw [List.dropWhile_cons_of_neg (by rw [h c List.mem_cons_self]; decide)]

theorem trimBlanks_eq {cs : List Char} (h : ∀ c ∈ cs, isBlank c = false) : trimBlanks cs = cs := by
  have hreverse : ∀ c ∈ cs.reverse, isBlank c = false := fun c hc => h c (List.mem_reverse.mp hc)
  rw [trimBlanks, dropBlanks, dropWhile_isBlank_eq h, dropWhile_isBlank_eq hreverse,
    List.reverse_reverse]

/-- A text reads as the integer whose numeral it is. -/
theorem integer?_showInt {n : Int} (h : IntType.i128.Holds n) : integer? (showInt n) = some n := by
  have htrim : trimBlanks (numeral n) = numeral n := trimBlanks_eq fun c hc => isBlank_of_mem_numeral hc
  rw [integer?, showInt, String.toList_ofList, htrim, readInt?_numeral, Option.filter_some,
    decide_eq_true h]
  rfl

end Text

end RecordSql
