import RecordSql.Proofs.Text.Utf8
import RecordSql.Text.ByteLength

/-!
# Cutting a text to a budget of bytes

Cutting looks for the greatest boundary within the budget.  Boundaries are the byte lengths of the
beginnings of a text (`isBoundary_iff`), and the beginning that belongs to the greatest one is the longest
that fits (`prefix_cut`).  A character has at most four bytes, so at most three bytes of the budget are
left over (`le_byteLength_cut`).

In the bytes of a text, a boundary is a place where no byte stands that continues a character
(`isBoundaryAt_encodeChars`).  Going back from the budget byte by byte to such a place finds the greatest
boundary, and never passes the first byte (`retreat?_encodeChars`).
-/

namespace RecordSql.Text

/-! ### Beginnings of a text -/

theorem length_encodeChars (cs : List Char) :
    (cs.flatMap String.utf8EncodeChar).length = byteLength cs := by
  induction cs with
  | nil => rfl
  | cons c cs ih =>
    rw [List.flatMap_cons, List.length_append, String.length_utf8EncodeChar, ih, byteLength]

theorem byteLength_append (p q : List Char) : byteLength (p ++ q) = byteLength p + byteLength q := by
  rw [← length_encodeChars, List.flatMap_append, List.length_append, length_encodeChars,
    length_encodeChars]

theorem eq_nil_of_byteLength_eq_zero {cs : List Char} (h : byteLength cs = 0) : cs = [] := by
  cases cs with
  | nil => rfl
  | cons c cs =>
    have hc := c.utf8Size_pos
    rw [byteLength] at h
    omega

/-- Of two beginnings of a text, the one with fewer bytes is a beginning of the other. -/
theorem prefix_of_byteLength_le {p q cs : List Char} (hp : p <+: cs) (hq : q <+: cs)
    (h : byteLength p ≤ byteLength q) : p <+: q := by
  rcases List.prefix_or_prefix_of_prefix hp hq with hpq | ⟨rest, rfl⟩
  · exact hpq
  · rw [byteLength_append] at h
    obtain rfl : rest = [] := eq_nil_of_byteLength_eq_zero (by omega)
    simp only [List.append_nil, List.prefix_rfl]

/-! ### Boundaries -/

/-- A boundary is the byte length of a beginning. -/
theorem isBoundary_iff {cs : List Char} {n : Nat} :
    isBoundary cs n = true ↔ ∃ p, p <+: cs ∧ byteLength p = n := by
  induction cs generalizing n with
  | nil =>
    cases n with
    | zero => exact iff_of_true rfl ⟨[], List.nil_prefix, rfl⟩
    | succ n =>
      refine iff_of_false (by simp [isBoundary]) ?_
      rintro ⟨p, hp, hn⟩
      rw [List.prefix_nil.mp hp, byteLength] at hn
      omega
  | cons c cs ih =>
    cases n with
    | zero => exact iff_of_true rfl ⟨[], List.nil_prefix, rfl⟩
    | succ n =>
      rw [isBoundary, Bool.and_eq_true, decide_eq_true_eq, ih]
      constructor
      · rintro ⟨hc, p, hp, hn⟩
        refine ⟨c :: p, List.cons_prefix_cons.mpr ⟨rfl, hp⟩, ?_⟩
        rw [byteLength, hn]
        omega
      · -- a beginning with more than no bytes starts with `c`
        rintro ⟨p, hp, hn⟩
        rcases List.prefix_cons_iff.mp hp with rfl | ⟨p, rfl, hp'⟩
        · rw [byteLength] at hn
          omega
        · rw [byteLength] at hn
          exact ⟨by omega, p, hp', by omega⟩

theorem isBoundary_zero (cs : List Char) : isBoundary cs 0 = true :=
  isBoundary_iff.mpr ⟨[], List.nil_prefix, rfl⟩

/-- Within a text, the next boundary downwards is at most three bytes away. -/
theorem exists_boundary_near {cs : List Char} {n : Nat} (h : n ≤ byteLength cs) :
    ∃ m, isBoundary cs m = true ∧ m ≤ n ∧ n ≤ m + 3 := by
  induction cs generalizing n with
  | nil =>
    rw [byteLength] at h
    exact ⟨0, isBoundary_zero [], Nat.zero_le n, by omega⟩
  | cons c cs ih =>
    have hc := c.utf8Size_le_four
    rw [byteLength] at h
    -- a character with at most four bytes that does not fit leaves no more than three of them
    by_cases hn : n < c.utf8Size
    · exact ⟨0, isBoundary_zero _, Nat.zero_le n, by omega⟩
    · obtain ⟨m, hm, hle, hnear⟩ := ih (n := n - c.utf8Size) (by omega)
      obtain ⟨p, hp, rfl⟩ := isBoundary_iff.mp hm
      have hcons : byteLength (c :: p) = c.utf8Size + byteLength p := rfl
      refine ⟨byteLength (c :: p), ?_, by omega, by omega⟩
      exact isBoundary_iff.mpr ⟨c :: p, List.cons_prefix_cons.mpr ⟨rfl, hp⟩, rfl⟩

/-- Going back from a place passes no place beyond it. -/
theorem lastBoundary_le (cs : List Char) (n : Nat) : lastBoundary cs n ≤ n := by
  induction n with
  | zero => exact Nat.le_refl 0
  | succ n ih =>
    rw [lastBoundary]
    split
    · exact Nat.le_refl _
    · omega

theorem isBoundary_lastBoundary (cs : List Char) (n : Nat) :
    isBoundary cs (lastBoundary cs n) = true := by
  induction n with
  | zero => exact isBoundary_zero cs
  | succ n ih =>
    rw [lastBoundary]
    split
    · assumption
    · exact ih

/-- Going back from a place stops at the first boundary that it meets. -/
theorem le_lastBoundary {cs : List Char} {m n : Nat} (hm : isBoundary cs m = true) (h : m ≤ n) :
    m ≤ lastBoundary cs n := by
  induction n with
  | zero => exact h
  | succ n ih =>
    rw [lastBoundary]
    split
    · exact h
    · rename_i hn
      have hne : m ≠ n + 1 := fun heq => hn (heq ▸ hm)
      exact ih (by omega)

/-! ### The longest beginning within a budget -/

theorem takeBytes_byteLength {p cs : List Char} (h : p <+: cs) : takeBytes cs (byteLength p) = p := by
  induction p generalizing cs with
  | nil => cases cs <;> rfl
  | cons c p ih =>
    obtain ⟨rest, rfl⟩ := h
    have hc := c.utf8Size_pos
    -- `takeBytes` looks at `c` because some of the bytes are left for it
    obtain ⟨n, hn⟩ : ∃ n, byteLength (c :: p) = n + 1 := ⟨c.utf8Size + byteLength p - 1, by
      rw [byteLength]
      omega⟩
    have hrest : n + 1 - c.utf8Size = byteLength p := by
      rw [byteLength] at hn
      omega
    rw [hn, List.cons_append, takeBytes, hrest, ih ⟨rest, rfl⟩]

theorem cut_of_byteLength_le {cs : List Char} {budget : Nat} (h : byteLength cs ≤ budget) :
    cut cs budget = cs := by
  rw [cut, if_pos h]

/-- A text that does not fit is cut at the greatest boundary. -/
theorem cut_of_lt {cs : List Char} {budget : Nat} (h : budget < byteLength cs) :
    cut cs budget <+: cs ∧ byteLength (cut cs budget) = lastBoundary cs budget := by
  obtain ⟨p, hp, hn⟩ := isBoundary_iff.mp (isBoundary_lastBoundary cs budget)
  rw [cut, if_neg (Nat.not_le.mpr h), ← hn, takeBytes_byteLength hp]
  exact ⟨hp, rfl⟩

/-- The cut is a beginning of the text. -/
theorem cut_isPrefix (cs : List Char) (budget : Nat) : cut cs budget <+: cs := by
  rcases Nat.lt_or_ge budget (byteLength cs) with h | h
  · exact (cut_of_lt h).1
  · simp only [cut_of_byteLength_le h, List.prefix_rfl]

/-- It fits the budget. -/
theorem byteLength_cut_le (cs : List Char) (budget : Nat) : byteLength (cut cs budget) ≤ budget := by
  rcases Nat.lt_or_ge budget (byteLength cs) with h | h
  · rw [(cut_of_lt h).2]
    exact lastBoundary_le cs budget
  · rwa [cut_of_byteLength_le h]

/-- Every beginning that fits is a beginning of the cut. -/
theorem prefix_cut {p cs : List Char} {budget : Nat} (hp : p <+: cs)
    (fits : byteLength p ≤ budget) : p <+: cut cs budget := by
  rcases Nat.lt_or_ge budget (byteLength cs) with h | h
  · obtain ⟨hcut, hlength⟩ := cut_of_lt h
    have hle : byteLength p ≤ lastBoundary cs budget :=
      le_lastBoundary (isBoundary_iff.mpr ⟨p, hp, rfl⟩) fits
    exact prefix_of_byteLength_le hp hcut (hlength ▸ hle)
  · rwa [cut_of_byteLength_le h]

/-- At most three bytes are left over, since no character is longer than four. -/
theorem le_byteLength_cut {cs : List Char} {budget : Nat} (h : budget < byteLength cs) :
    budget ≤ byteLength (cut cs budget) + 3 := by
  obtain ⟨m, hm, hle, hnear⟩ := exists_boundary_near (Nat.le_of_lt h)
  have hlast := le_lastBoundary hm hle
  rw [(cut_of_lt h).2]
  omega

/-! ### Boundaries in the bytes of a text -/

namespace Utf8

/-- Whether no character goes on at the `i`-th byte: another one starts there, or the bytes end. -/
def startsAt (bytes : List UInt8) (i : Nat) : Bool :=
  match bytes[i]? with
  | some b => !isTail b
  | none => i == bytes.length

/-- Whether the bytes can be cut in front of the `i`-th. -/
def isBoundaryAt (bytes : List UInt8) (i : Nat) : Bool :=
  i == 0 || startsAt bytes i

/-- Goes back to a boundary byte by byte; `none` if there is none, down to the first byte. -/
def retreat? (bytes : List UInt8) : Nat → Option Nat
  | 0 => if isBoundaryAt bytes 0 then some 0 else none
  | i + 1 => if isBoundaryAt bytes (i + 1) then some (i + 1) else retreat? bytes i

theorem isTail_ofNat_of_lt {n : Nat} (h : n < 0x80) : isTail (UInt8.ofNat n) = false := by
  rw [isTail, toNat_ofNat_of_lt (by omega)]
  simp only [Bool.and_eq_false_iff, decide_eq_false_iff_not]
  omega

theorem isTail_ofNat_of_le {n : Nat} (h : 0xC0 ≤ n) (upper : n < 256) :
    isTail (UInt8.ofNat n) = false := by
  rw [isTail, toNat_ofNat_of_lt upper]
  simp only [Bool.and_eq_false_iff, decide_eq_false_iff_not]
  omega

/-- The first byte of a character continues none, and all the others do. -/
theorem tails_encodeChar (c : Char) :
    ∃ b more, String.utf8EncodeChar c = b :: more ∧ isTail b = false ∧
      ∀ b' ∈ more, isTail b' = true := by
  have hv := toNat_bounds c
  -- one to four bytes: the first is below 0x80 or from 0xC0 on, the others carry six bits each
  rw [encodeChar_eq]
  by_cases h₁ : c.toNat ≤ 127
  · exact ⟨_, [], if_pos h₁, isTail_ofNat_of_lt (by omega), by simp⟩
  rw [if_neg h₁]
  by_cases h₂ : c.toNat ≤ 2047
  · refine ⟨_, [_], if_pos h₂, isTail_ofNat_of_le (by omega) (by omega), ?_⟩
    rw [List.forall_mem_singleton]
    exact isTail_ofNat (by omega)
  rw [if_neg h₂]
  by_cases h₃ : c.toNat ≤ 65535
  · refine ⟨_, [_, _], if_pos h₃, isTail_ofNat_of_le (by omega) (by omega), ?_⟩
    rw [List.forall_mem_cons, List.forall_mem_singleton]
    exact ⟨isTail_ofNat (by omega), isTail_ofNat (by omega)⟩
  · refine ⟨_, [_, _, _], if_neg h₃, isTail_ofNat_of_le (by omega) (by omega), ?_⟩
    rw [List.forall_mem_cons, List.forall_mem_cons, List.forall_mem_singleton]
    exact ⟨isTail_ofNat (by omega), isTail_ofNat (by omega), isTail_ofNat (by omega)⟩

/-- Behind the bytes of a character, the places are those of the bytes that follow. -/
theorem startsAt_append (front back : List UInt8) (i : Nat) :
    startsAt (front ++ back) (front.length + i) = startsAt back i := by
  have hi : (front ++ back)[front.length + i]? = back[i]? := by
    rw [List.getElem?_append_right (Nat.le_add_right _ _), Nat.add_sub_cancel_left]
  have hend : (front.length + i == front.length + back.length) = (i == back.length) := by
    rw [Bool.eq_iff_iff, beq_iff_eq, beq_iff_eq, Nat.add_left_cancel_iff]
  rw [startsAt, startsAt, hi, List.length_append, hend]

/-- A byte starts a character exactly if characters end in front of it. -/
theorem startsAt_encodeChars (cs : List Char) (i : Nat) :
    startsAt (cs.flatMap String.utf8EncodeChar) i = isBoundary cs i := by
  induction cs generalizing i with
  | nil =>
    cases i with
    | zero => rfl
    | succ i => rw [List.flatMap_nil, isBoundary]; rfl
  | cons c cs ih =>
    obtain ⟨b, more, hc, hfirst, hmore⟩ := tails_encodeChar c
    have hsize : c.utf8Size = more.length + 1 := by
      rw [← String.length_utf8EncodeChar, hc, List.length_cons]
    cases i with
    | zero =>
      rw [isBoundary_zero, List.flatMap_cons, hc, startsAt]
      exact congrArg (!·) hfirst
    | succ i =>
      rw [isBoundary, hsize]
      by_cases hi : i < more.length
      · -- the byte is one of those that continue `c`
        have hbyte : (String.utf8EncodeChar c ++ cs.flatMap String.utf8EncodeChar)[i + 1]? =
            some more[i] := by
          rw [hc, List.cons_append, List.getElem?_cons_succ, List.getElem?_append_left hi,
            List.getElem?_eq_getElem hi]
        have hsmall : ¬more.length + 1 ≤ i + 1 := by omega
        rw [List.flatMap_cons, startsAt, hbyte]
        simp only [hmore more[i] (List.getElem_mem hi), hsmall]
        rfl
      · -- the byte lies behind those of `c`
        have hle : more.length + 1 ≤ i + 1 := by omega
        have hplace : i + 1 = (String.utf8EncodeChar c).length + (i + 1 - (more.length + 1)) := by
          rw [String.length_utf8EncodeChar, hsize]
          omega
        rw [List.flatMap_cons, hplace, startsAt_append, ← hplace, ih, decide_eq_true hle,
          Bool.true_and]

theorem isBoundaryAt_encodeChars (cs : List Char) (i : Nat) :
    isBoundaryAt (cs.flatMap String.utf8EncodeChar) i = isBoundary cs i := by
  rw [isBoundaryAt, startsAt_encodeChars]
  cases i with
  | zero => rw [isBoundary_zero, Bool.or_true]
  | succ i => rfl

/-- Going back through the bytes of a text ends at the greatest boundary, and does end. -/
theorem retreat?_encodeChars (cs : List Char) (n : Nat) :
    retreat? (cs.flatMap String.utf8EncodeChar) n = some (lastBoundary cs n) := by
  induction n with
  | zero => rw [retreat?, isBoundaryAt_encodeChars, isBoundary_zero, if_pos rfl, lastBoundary]
  | succ n ih =>
    rw [retreat?, isBoundaryAt_encodeChars, ih, lastBoundary]
    split <;> rfl

/-- The bytes of a beginning are the first bytes of the text. -/
theorem take_encodeChars {p cs : List Char} (h : p <+: cs) :
    (cs.flatMap String.utf8EncodeChar).take (byteLength p) = p.flatMap String.utf8EncodeChar := by
  obtain ⟨rest, rfl⟩ := h
  rw [List.flatMap_append, ← length_encodeChars, List.take_left]

end Utf8

end RecordSql.Text
