import Mathlib.Data.List.Induction
import Mathlib.Data.List.TakeWhile
import RecordSql.Proofs.Text.Numeral

/-!
# Texts that denote integers

By its grammar a text denotes an integer if it is white space, at most one sign, one or more ASCII
digits, and white space again (`Denotes`).  A text is read as an integer exactly if it denotes it and
the integer fits 128 bits (`integer?_eq_some_iff`); so no text denotes two such integers.

The grammar puts digits behind one another where the reader runs over all of them, and leaves open how
much white space there is where the reader cuts off as much as it can.  The first difference goes by
induction from the last digit (`digits_iff`), the second one vanishes because a numeral has no white
space in it (`trimBlanks_eq_of_append`).
-/

namespace RecordSql.Text

/-! ### The grammar -/

/-- The code points of the characters with the property `White_Space`, one by one. -/
def whiteSpace : List Nat := [
  0x9, 0xA, 0xB, 0xC, 0xD, 0x20, 0x85, 0xA0, 0x1680, 0x2000, 0x2001, 0x2002, 0x2003, 0x2004, 0x2005,
  0x2006, 0x2007, 0x2008, 0x2009, 0x200A, 0x2028, 0x2029, 0x202F, 0x205F, 0x3000]

/-- Whether a sequence of characters is white space only. -/
def Blank (cs : List Char) : Prop :=
  ∀ c ∈ cs, c.toNat ∈ whiteSpace

/-- One or more ASCII digits, and their number. -/
inductive Digits : List Char → Nat → Prop where
  | one {c : Char} (digit : c.isDigit = true) : Digits [c] (c.toNat - '0'.toNat)
  | more {cs : List Char} {n : Nat} {c : Char} (front : Digits cs n) (digit : c.isDigit = true) :
      Digits (cs ++ [c]) (10 * n + (c.toNat - '0'.toNat))

/-- Digits behind at most one sign, and their integer. -/
inductive Signed : List Char → Int → Prop where
  | bare {cs : List Char} {n : Nat} (digits : Digits cs n) : Signed cs n
  | plus {cs : List Char} {n : Nat} (digits : Digits cs n) : Signed ('+' :: cs) n
  | minus {cs : List Char} {n : Nat} (digits : Digits cs n) : Signed ('-' :: cs) (-n)

/-- Whether a text denotes the integer `n`: it is a signed numeral between white space. -/
def Denotes (s : String) (n : Int) : Prop :=
  ∃ lead body trail, s.toList = lead ++ body ++ trail ∧ Blank lead ∧ Blank trail ∧ Signed body n

/-! ### Digits and signs -/

theorem digits_iff {cs : List Char} {n : Nat} :
    Digits cs n ↔ cs ≠ [] ∧ (∀ c ∈ cs, c.isDigit = true) ∧ Nat.ofDigitChars 10 cs 0 = n := by
  constructor
  · intro h
    induction h with
    | @one c digit => simp [digit, Nat.ofDigitChars_cons]
    | @more cs n c front digit ih =>
      obtain ⟨-, hdigits, hn⟩ := ih
      refine ⟨by simp, ?_, ?_⟩
      · rw [List.forall_mem_append]
        exact ⟨hdigits, by simp [digit]⟩
      · rw [Nat.ofDigitChars_append, hn, Nat.ofDigitChars_cons, Nat.ofDigitChars_nil]
  · rintro ⟨hne, hdigits, rfl⟩
    -- digits are given from the front, their number is told from the back
    induction cs using List.reverseRecOn with
    | nil => exact absurd rfl hne
    | append_singleton cs c ih =>
      rw [List.forall_mem_append] at hdigits
      obtain ⟨hfront, hlast⟩ := hdigits
      have hc : c.isDigit = true := hlast c List.mem_cons_self
      rw [Nat.ofDigitChars_append, Nat.ofDigitChars_cons, Nat.ofDigitChars_nil]
      by_cases hcs : cs = []
      · subst hcs
        rw [Nat.ofDigitChars_nil, Nat.mul_zero, Nat.zero_add]
        exact .one hc
      · exact .more (ih hcs hfront) hc

/-- Digits are read as the number that they denote. -/
theorem readNat?_eq_some_iff {cs : List Char} {n : Nat} : readNat? cs = some n ↔ Digits cs n := by
  rw [digits_iff, readNat?, ← List.all_eq_true]
  cases cs with
  | nil => simp
  | cons c cs => cases (c :: cs).all Char.isDigit <;> simp

theorem Digits.exists_cons {cs : List Char} {n : Nat} (h : Digits cs n) :
    ∃ c cs', cs = c :: cs' ∧ c.isDigit = true := by
  obtain ⟨hne, hdigits, -⟩ := digits_iff.mp h
  obtain ⟨c, cs', rfl⟩ := List.exists_cons_of_ne_nil hne
  exact ⟨c, cs', rfl, hdigits c List.mem_cons_self⟩

/-- A sign and digits are read as the integer that they denote. -/
theorem readInt?_eq_some_iff {cs : List Char} {n : Int} : readInt? cs = some n ↔ Signed cs n := by
  constructor
  · intro h
    unfold readInt? at h
    simp only [bind_pure_comp, Option.map_eq_map, Option.map_map] at h
    split at h
    · obtain ⟨m, hm, rfl⟩ := Option.map_eq_some_iff.mp h
      exact .minus (readNat?_eq_some_iff.mp hm)
    · obtain ⟨m, hm, rfl⟩ := Option.map_eq_some_iff.mp h
      exact .plus (readNat?_eq_some_iff.mp hm)
    · obtain ⟨m, hm, rfl⟩ := Option.map_eq_some_iff.mp h
      exact .bare (readNat?_eq_some_iff.mp hm)
  · intro h
    cases h with
    -- a digit is no sign
    | bare digits =>
      obtain ⟨c, cs', rfl, hc⟩ := digits.exists_cons
      rw [readInt?_of_isDigit hc, readNat?_eq_some_iff.mpr digits]
      rfl
    | plus digits =>
      rw [readInt?, readNat?_eq_some_iff.mpr digits]
      rfl
    | minus digits =>
      rw [readInt?, readNat?_eq_some_iff.mpr digits]
      rfl

/-! ### White space -/

theorem isBlank_iff {c : Char} : isBlank c = true ↔ c.toNat ∈ whiteSpace := by
  rw [isBlank, whiteSpace]
  generalize c.toNat = n
  simp only [blankRanges, covered, Bool.if_false_left, Bool.and_eq_true, Bool.or_eq_true,
    Bool.not_eq_true', decide_eq_true_eq, decide_eq_false_iff_not, List.mem_cons, List.not_mem_nil,
    or_false, Bool.false_eq_true]
  omega

theorem blank_iff {cs : List Char} : Blank cs ↔ ∀ c ∈ cs, isBlank c = true := by
  simp only [Blank, isBlank_iff]

theorem Signed.isBlank_eq_false {cs : List Char} {n : Int} (h : Signed cs n) :
    ∀ c ∈ cs, isBlank c = false := by
  have hdigits {cs : List Char} {n : Nat} (h : Digits cs n) : ∀ c ∈ cs, isBlank c = false :=
    fun c hc => isBlank_of_isDigit ((digits_iff.mp h).2.1 c hc)
  cases h with
  | bare digits => exact hdigits digits
  | plus digits => exact List.forall_mem_cons.mpr ⟨by decide, hdigits digits⟩
  | minus digits => exact List.forall_mem_cons.mpr ⟨by decide, hdigits digits⟩

/-- Trimming cuts white space off at both ends, and nothing else. -/
theorem exists_eq_append_trimBlanks (cs : List Char) :
    ∃ lead trail, cs = lead ++ trimBlanks cs ++ trail ∧ Blank lead ∧ Blank trail := by
  refine ⟨cs.takeWhile isBlank, ((dropBlanks cs).reverse.takeWhile isBlank).reverse, ?_, ?_, ?_⟩
  · rw [trimBlanks, List.append_assoc, ← List.reverse_append, List.takeWhile_append_dropWhile,
      List.reverse_reverse, dropBlanks, List.takeWhile_append_dropWhile]
  · exact blank_iff.mpr fun c hc => List.mem_takeWhile_imp hc
  · exact blank_iff.mpr fun c hc => List.mem_takeWhile_imp (List.mem_reverse.mp hc)

/-- Between white space, trimming finds whatever has no white space in it. -/
theorem trimBlanks_eq_of_append {lead body trail : List Char} (hlead : Blank lead)
    (htrail : Blank trail) (hbody : ∀ c ∈ body, isBlank c = false) :
    trimBlanks (lead ++ body ++ trail) = body := by
  rw [blank_iff] at hlead htrail
  rw [trimBlanks, dropBlanks, List.append_assoc, List.dropWhile_append_of_pos hlead]
  cases body with
  | nil =>
    -- nothing but white space
    have hnil : trail.dropWhile isBlank = [] := by
      rw [← List.append_nil trail, List.dropWhile_append_of_pos htrail, List.dropWhile_nil]
    rw [List.nil_append, hnil]
    rfl
  | cons c cs =>
    have hc : isBlank c = false := hbody c List.mem_cons_self
    have hreverse : ∀ d ∈ trail.reverse, isBlank d = true :=
      fun d hd => htrail d (List.mem_reverse.mp hd)
    rw [List.cons_append, List.dropWhile_cons_of_neg (by rw [hc]; decide), ← List.cons_append,
      List.reverse_append, List.dropWhile_append_of_pos hreverse,
      dropWhile_isBlank_eq fun d hd => hbody d (List.mem_reverse.mp hd), List.reverse_reverse]

/-! ### Reading -/

/-- **A text is read as the integer that it denotes**, if the integer fits 128 bits. -/
theorem integer?_eq_some_iff {s : String} {n : Int} :
    integer? s = some n ↔ Denotes s n ∧ IntType.i128.Holds n := by
  rw [integer?, Option.filter_eq_some_iff, decide_eq_true_eq, readInt?_eq_some_iff]
  refine and_congr_left fun _ => ⟨fun h => ?_, ?_⟩
  · obtain ⟨lead, trail, heq, hlead, htrail⟩ := exists_eq_append_trimBlanks s.toList
    exact ⟨lead, _, trail, heq, hlead, htrail, h⟩
  · rintro ⟨lead, body, trail, heq, hlead, htrail, hbody⟩
    rw [heq, trimBlanks_eq_of_append hlead htrail hbody.isBlank_eq_false]
    exact hbody

end RecordSql.Text
