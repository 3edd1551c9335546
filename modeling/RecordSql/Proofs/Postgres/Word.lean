import Mathlib.Algebra.Group.Nat.Defs
import Mathlib.Data.List.Induction
import RecordSql.Postgres.Word
import RecordSql.Value

/-!
# Integers in network order

`n` bytes are the digits to the base 256 of one natural number below `256 ^ n`, so words and the bytes that
form them determine each other (`wordOf_wordBytes`, `wordBytes_wordOf`).  An integer is sent as the word
that it is congruent to.  Which integer a word stands for is a matter of the type that reads it:
`FixedWidth` says what such a reading has to do, and the two readings there are, with the upper half of
the words for the negative integers and without, both do it (`FixedWidth.signed`, `FixedWidth.unsigned`).
-/

namespace RecordSql.Postgres

/-! ### Words -/

theorem length_wordBytes (n k : Nat) : (wordBytes n k).length = n := by
  induction n generalizing k with
  | zero => rfl
  | succ n ih => simp [wordBytes, ih]

theorem length_integerBytes (n : Nat) (k : Int) : (integerBytes n k).length = n :=
  length_wordBytes n _

/-- The last byte is the lowest digit. -/
theorem wordOf_append_singleton (bytes : List UInt8) (b : UInt8) :
    wordOf (bytes ++ [b]) = 256 * wordOf bytes + b.toNat := by
  simp [wordOf]

theorem wordOf_lt (bytes : List UInt8) : wordOf bytes < 256 ^ bytes.length := by
  induction bytes using List.reverseRecOn with
  | nil => decide
  | append_singleton bytes b ih =>
    have hb : b.toNat < 256 := b.toNat_lt
    rw [wordOf_append_singleton, List.length_append, List.length_singleton, Nat.pow_succ]
    omega

/-- A number is taken modulo the words there are. -/
theorem wordOf_wordBytes (n k : Nat) : wordOf (wordBytes n k) = k % 256 ^ n := by
  induction n generalizing k with
  | zero => simp [wordBytes, wordOf, Nat.mod_one]
  | succ n ih =>
    have hb : (UInt8.ofNat (k % 256)).toNat = k % 256 :=
      UInt8.toNat_ofNat_of_lt' (Nat.mod_lt k (by decide))
    rw [wordBytes, wordOf_append_singleton, ih, hb, Nat.pow_succ, Nat.mul_comm (256 ^ n), Nat.mod_mul]
    exact Nat.add_comm _ _

theorem wordOf_wordBytes_of_lt {n k : Nat} (h : k < 256 ^ n) : wordOf (wordBytes n k) = k := by
  rw [wordOf_wordBytes, Nat.mod_eq_of_lt h]

/-- The bytes of a word are the ones it was read from. -/
theorem wordBytes_wordOf (bytes : List UInt8) : wordBytes bytes.length (wordOf bytes) = bytes := by
  induction bytes using List.reverseRecOn with
  | nil => rfl
  | append_singleton bytes b ih =>
    have hb : b.toNat < 256 := b.toNat_lt
    have hdiv : (256 * wordOf bytes + b.toNat) / 256 = wordOf bytes := by omega
    have hmod : (256 * wordOf bytes + b.toNat) % 256 = b.toNat := by omega
    rw [List.length_append, List.length_singleton, wordOf_append_singleton, wordBytes, hdiv, hmod, ih,
      UInt8.ofNat_toNat]

/-! ### Integers -/

/-- The word of an integer is the integer up to a multiple of the number of words. -/
theorem wordOf_integerBytes (n : Nat) (k : Int) :
    (wordOf (integerBytes n k) : Int) = k % (256 ^ n : Nat) := by
  have hpos : 0 < 256 ^ n := Nat.pow_pos (by decide)
  have lower : 0 ≤ k % (256 ^ n : Nat) := Int.emod_nonneg k (by omega)
  have upper : k % (256 ^ n : Nat) < (256 ^ n : Nat) := Int.emod_lt_of_pos k (by omega)
  rw [integerBytes, Nat.pow_eq, wordOf_wordBytes_of_lt (by omega), Int.toNat_of_nonneg lower]

/-- Integers that are congruent to a word are sent as that word. -/
theorem integerBytes_eq_of_emod {bytes : List UInt8} {k : Int}
    (h : k % (256 ^ bytes.length : Nat) = wordOf bytes) : integerBytes bytes.length k = bytes := by
  rw [integerBytes, Nat.pow_eq, h, Int.toNat_natCast, wordBytes_wordOf]

theorem integerOf_eq (bytes : List UInt8) :
    integerOf bytes =
      if 2 * wordOf bytes < 256 ^ bytes.length then (wordOf bytes : Int)
      else wordOf bytes - (256 ^ bytes.length : Nat) := rfl

/-- A reading of `width` bytes as an integer of type `t`: every word stands for an integer of the type,
and no other word stands for the same one. -/
structure FixedWidth (t : IntType) (width : Nat) (read : List UInt8 → Int) : Prop where
  holds_read : ∀ {bytes : List UInt8}, bytes.length = width → t.Holds (read bytes)
  read_integerBytes : ∀ {n : Int}, t.Holds n → read (integerBytes width n) = n
  integerBytes_read : ∀ {bytes : List UInt8}, bytes.length = width →
    integerBytes width (read bytes) = bytes

/-- The integers of a type with as many negative ones as others. -/
theorem FixedWidth.signed {t : IntType} {width : Nat} (least : 2 * t.least = -(256 ^ width : Nat))
    (greatest : 2 * (t.greatest + 1) = (256 ^ width : Nat)) : FixedWidth t width integerOf where
  holds_read {bytes} hlength := by
    have hlt := wordOf_lt bytes
    rw [hlength] at hlt
    rw [integerOf_eq, hlength]
    unfold IntType.Holds
    split <;> omega
  read_integerBytes {n} holds := by
    unfold IntType.Holds at holds
    have hword := wordOf_integerBytes width n
    rw [integerOf_eq, length_integerBytes]
    by_cases hn : 0 ≤ n
    · -- the lower half of the words
      rw [Int.emod_eq_of_lt hn (by omega)] at hword
      rw [if_pos (by omega), hword]
    · -- the upper half
      rw [← Int.add_emod_right, Int.emod_eq_of_lt (by omega) (by omega)] at hword
      rw [if_neg (by omega), hword]
      omega
  integerBytes_read {bytes} hlength := by
    subst hlength
    have hlt := wordOf_lt bytes
    apply integerBytes_eq_of_emod
    rw [integerOf_eq]
    split
    · exact Int.emod_eq_of_lt (by omega) (by omega)
    · rw [Int.sub_emod_right]
      exact Int.emod_eq_of_lt (by omega) (by omega)

/-- The integers of a type without negative ones. -/
theorem FixedWidth.unsigned {t : IntType} {width : Nat} (least : t.least = 0)
    (greatest : t.greatest + 1 = (256 ^ width : Nat)) :
    FixedWidth t width fun bytes => wordOf bytes where
  holds_read {bytes} hlength := by
    have hlt := wordOf_lt bytes
    rw [hlength] at hlt
    unfold IntType.Holds
    omega
  read_integerBytes {n} holds := by
    unfold IntType.Holds at holds
    rw [wordOf_integerBytes]
    exact Int.emod_eq_of_lt (by omega) (by omega)
  integerBytes_read {bytes} hlength := by
    subst hlength
    have hlt := wordOf_lt bytes
    -- a word is its own remainder, since it is below the number of words
    apply integerBytes_eq_of_emod
    exact Int.emod_eq_of_lt (by omega) (by omega)

end RecordSql.Postgres
