import Mathlib.Algebra.Order.Field.Rat
import Mathlib.Algebra.Order.Field.Basic
import Mathlib.Algebra.Order.Group.Unbundled.Abs
import Mathlib.Order.Monotone.Basic
import Mathlib.Tactic.FieldSimp
import Mathlib.Tactic.Linarith
import Mathlib.Tactic.NormNum
import Mathlib.Tactic.Positivity
import Mathlib.Tactic.Ring
import RecordSql.Number.Format

/-!
# Rounding to a binary format

The codes of a format are numbered in the order of their magnitudes, and `Format.magnitude` gives a
magnitude to every code, the code of infinity and those beyond it included: they get the numbers that would
follow if the format had no greatest exponent.  So rounding is a matter of one ascending sequence.

`IsNearestEven` says what the rounded term of such a sequence is by comparing it with all others, not by
how it is found.  `Format.encode` finds it (`Format.isNearestEven_code`), and it answers infinity exactly
if what it rounds reaches `Format.limit`, halfway from the greatest finite magnitude to the one that would
follow (`Format.encode_lt_infinity_iff`).
-/

namespace RecordSql.Number

/-! ### Nearest terms of a sequence -/

/-- `k` is the index of the term nearest to `x`, and even if another term is as near. -/
structure IsNearestEven (value : Nat → ℚ) (x : ℚ) (k : Nat) : Prop where
  nearest : ∀ j, |x - value k| ≤ |x - value j|
  even : ∀ j, j ≠ k → |x - value k| = |x - value j| → k % 2 = 0

namespace IsNearestEven

variable {value : Nat → ℚ} {x : ℚ} {k n : Nat}

/-- A term is the nearest one to itself. -/
theorem of_eq (ascending : StrictMono value) (h : value k = x) : IsNearestEven value x k where
  nearest j := by
    rw [h, sub_self, abs_zero]
    exact abs_nonneg _
  even j hj heq := by
    -- no other term is at the distance zero
    rw [h, sub_self, abs_zero] at heq
    have hx : x = value j := sub_eq_zero.mp (abs_eq_zero.mp heq.symm)
    exact absurd (ascending.injective (h.trans hx).symm) hj

/-- What is nearest to a number does not pass a point of the scale above it. -/
theorem le_of_le (ascending : StrictMono value) (near : IsNearestEven value x k)
    (h : x ≤ value n) : k ≤ n := by
  by_contra hlt
  have hn : value n < value k := ascending (not_le.mp hlt)
  have hle := near.nearest n
  rw [abs_of_nonpos (by linarith), abs_of_nonpos (by linarith)] at hle
  linarith

/-- Neither does it pass one below. -/
theorem ge_of_ge (ascending : StrictMono value) (near : IsNearestEven value x k)
    (h : value n ≤ x) : n ≤ k := by
  by_contra hlt
  have hn : value k < value n := ascending (not_le.mp hlt)
  have hle := near.nearest n
  rw [abs_of_nonneg (by linarith), abs_of_nonneg (by linarith)] at hle
  linarith

/-- The nearest term lies below an even one exactly if what is rounded lies below the middle of that and
the term before. -/
theorem lt_iff (ascending : StrictMono value) (near : IsNearestEven value x k) (hn : n % 2 = 0)
    (pos : 0 < n) : k < n ↔ x < (value (n - 1) + value n) / 2 := by
  have hstep : value (n - 1) < value n := ascending (by omega)
  constructor
  · intro hlt
    by_contra hx
    have hk : value k ≤ value (n - 1) := ascending.monotone (by omega)
    have hdist : |x - value k| = x - value k := abs_of_nonneg (by linarith)
    have hle := near.nearest n
    rcases le_total x (value n) with hxn | hxn
    · have hdist' : |x - value n| = value n - x := by rw [abs_of_nonpos (by linarith), neg_sub]
      rw [hdist, hdist'] at hle
      -- only the middle itself is left, and `n - 1` is odd
      have hvalue : value k = value (n - 1) := by linarith
      have heq : k = n - 1 := ascending.injective hvalue
      have heven := near.even n (by omega) (by rw [hdist, hdist']; linarith)
      omega
    · rw [hdist, abs_of_nonneg (by linarith)] at hle
      linarith
  · intro hx
    by_contra hlt
    have hk : value n ≤ value k := ascending.monotone (by omega)
    have hle := near.nearest (n - 1)
    rw [abs_of_nonpos (by linarith)] at hle
    rcases le_total x (value (n - 1)) with hxn | hxn
    · rw [abs_of_nonpos (by linarith)] at hle
      linarith
    · rw [abs_of_nonneg (by linarith)] at hle
      linarith

end IsNearestEven

/-! ### Quotients -/

theorem natCast_strictMono : StrictMono (fun n : Nat => (n : ℚ)) :=
  fun _ _ h => Nat.cast_lt.mpr h

/-- What `divRoundEven` leaves is at most half the divisor, and half of it for even quotients only. -/
theorem divRoundEven_spec (n d : Nat) (hd : 0 < d) :
    2 * |(n : Int) - d * divRoundEven n d| < d ∨
      2 * |(n : Int) - d * divRoundEven n d| = d ∧ divRoundEven n d % 2 = 0 := by
  have hdiv : (d : Int) * (n / d : Nat) + (n % d : Nat) = n := by exact_mod_cast Nat.div_add_mod n d
  have hmod : n % d < d := Nat.mod_lt n hd
  have hdown : (n : Int) - d * (n / d : Nat) = (n % d : Nat) := by linarith
  have hup : (n : Int) - d * (n / d + 1 : Nat) = -((d : Int) - (n % d : Nat)) := by
    push_cast at hdiv ⊢
    linarith
  unfold divRoundEven
  dsimp only
  split
  · left
    rw [hdown, abs_of_nonneg (by omega)]
    omega
  · split
    · left
      rw [hup, abs_neg, abs_of_nonneg (by omega)]
      omega
    · -- halfway: the even one of the two is taken
      right
      split
      · rw [hdown, abs_of_nonneg (by omega)]
        omega
      · rw [hup, abs_neg, abs_of_nonneg (by omega)]
        omega

/-- `divRoundEven n d` is the natural number nearest to `n / d`. -/
theorem isNearestEven_divRoundEven (n d : Nat) (hd : 0 < d) :
    IsNearestEven (fun k : Nat => (k : ℚ)) ((n : ℚ) / d) (divRoundEven n d) := by
  have hd' : (0 : ℚ) < d := Nat.cast_pos.mpr hd
  have hdist (k : Nat) : |(n : ℚ) / d - k| = (|(n : Int) - d * k| : Int) / d := by
    have hsub : (n : ℚ) / d - k = ((n : Int) - d * k : Int) / d := by
      push_cast
      field_simp
    rw [hsub, abs_div, abs_of_pos hd', Int.cast_abs]
  -- any other multiple of `d` is at least `d` away from the one that is taken
  have hfar (j : Nat) (hj : j ≠ divRoundEven n d) :
      (d : Int) ≤ |(n : Int) - d * divRoundEven n d| + |(n : Int) - d * j| := by
    have hgap : (d : Int) ≤ |(d : Int) * (j - divRoundEven n d : Int)| := by
      rw [abs_mul, abs_of_nonneg (by omega : (0 : Int) ≤ d)]
      have hone : (1 : Int) ≤ |(j : Int) - divRoundEven n d| := Int.one_le_abs (by omega)
      exact le_mul_of_one_le_right (by omega) hone
    have hsplit : (d : Int) * (j - divRoundEven n d : Int) =
        ((n : Int) - d * divRoundEven n d) - ((n : Int) - d * j) := by ring
    rw [hsplit] at hgap
    exact hgap.trans (abs_sub _ _)
  have spec := divRoundEven_spec n d hd
  constructor
  · intro j
    rw [hdist, hdist]
    refine div_le_div_of_nonneg_right (Int.cast_le.mpr ?_) hd'.le
    by_cases hj : j = divRoundEven n d
    · rw [hj]
    · have := hfar j hj
      omega
  · intro j hj heq
    rw [hdist, hdist, div_left_inj' hd'.ne', Int.cast_inj] at heq
    have := hfar j hj
    omega

/-! ### Magnitudes -/

/-- The number `m · 2^q`. -/
def scaled (m : Nat) (q : Int) : ℚ :=
  m * 2 ^ q

theorem two_zpow_pos (q : Int) : (0 : ℚ) < 2 ^ q :=
  zpow_pos (by norm_num) q

theorem scaled_nonneg (m : Nat) (q : Int) : 0 ≤ scaled m q :=
  mul_nonneg (Nat.cast_nonneg m) (two_zpow_pos q).le

theorem scaled_lt_scaled {m m' : Nat} (q : Int) (h : m < m') : scaled m q < scaled m' q :=
  mul_lt_mul_of_pos_right (Nat.cast_lt.mpr h) (two_zpow_pos q)

/-- The same number in a smaller unit. -/
theorem scaled_add (m k : Nat) (q : Int) : scaled m (q + k) = scaled (m * 2 ^ k) q := by
  rw [scaled, scaled, zpow_add₀ (by norm_num), zpow_natCast]
  push_cast
  ring

theorem twoTo_eq (n : Nat) : twoTo n = 2 ^ n := rfl

namespace Format

variable (f : Format)

/-- The magnitude of a code, as if no exponent were the greatest. -/
def magnitude (code : Nat) : ℚ :=
  scaled (f.decode code).1 (f.decode code).2

/-- Halfway from the greatest finite magnitude to the one that would follow. -/
def limit : ℚ :=
  (f.magnitude (f.infinity - 1) + f.magnitude f.infinity) / 2

theorem binade_pos : 0 < f.binade :=
  Nat.two_pow_pos _

/-- Each code in terms of its binade: `count` units of `2^(least + e)`. -/
theorem exists_binade (code : Nat) :
    ∃ e count, code = e * f.binade + count ∧ count < 2 * f.binade ∧ (e = 0 ∨ f.binade ≤ count) := by
  have hmod := Nat.mod_lt code f.binade_pos
  have hdiv := Nat.div_add_mod code f.binade
  cases field : code / f.binade with
  | zero =>
    rw [field] at hdiv
    exact ⟨0, code % f.binade, by omega, by omega, Or.inl rfl⟩
  | succ e =>
    refine ⟨e, f.binade + code % f.binade, ?_, by omega, Or.inr (by omega)⟩
    rw [field, Nat.mul_succ] at hdiv
    rw [Nat.mul_comm e]
    omega

theorem magnitude_of_lt {e count : Nat} (upper : count < 2 * f.binade)
    (lower : e = 0 ∨ f.binade ≤ count) :
    f.magnitude (e * f.binade + count) = scaled count (f.least + e) := by
  have hpos := f.binade_pos
  rcases Nat.lt_or_ge count f.binade with hlt | hge
  · -- the least binade, without the hidden bit
    obtain rfl : e = 0 := by omega
    have hfield : (0 * f.binade + count) / f.binade = 0 := Nat.div_eq_of_lt (by omega)
    have hfraction : (0 * f.binade + count) % f.binade = count := by
      rw [Nat.zero_mul, Nat.zero_add, Nat.mod_eq_of_lt hlt]
    rw [magnitude, decode, hfield, hfraction, if_pos rfl]
    simp
  · obtain ⟨fraction, rfl⟩ := Nat.exists_eq_add_of_le hge
    have hcode : e * f.binade + (f.binade + fraction) = fraction + (e + 1) * f.binade := by ring
    have hfield : (fraction + (e + 1) * f.binade) / f.binade = e + 1 := by
      rw [Nat.add_mul_div_right _ _ hpos, Nat.div_eq_of_lt (by omega), Nat.zero_add]
    have hfraction : (fraction + (e + 1) * f.binade) % f.binade = fraction := by
      rw [Nat.add_mul_mod_self_right, Nat.mod_eq_of_lt (by omega)]
    rw [hcode, magnitude, decode, hfield, hfraction, if_neg (Nat.succ_ne_zero e)]
    dsimp only
    congr 1
    push_cast
    ring

/-- A count may also reach the next binade, as one that has been rounded does. -/
theorem magnitude_binade {e count : Nat} (upper : count ≤ 2 * f.binade)
    (lower : e = 0 ∨ f.binade ≤ count) :
    f.magnitude (e * f.binade + count) = scaled count (f.least + e) := by
  rcases Nat.lt_or_eq_of_le upper with hlt | rfl
  · exact f.magnitude_of_lt hlt lower
  · have hpos := f.binade_pos
    have hcode : e * f.binade + 2 * f.binade = (e + 1) * f.binade + f.binade := by ring
    have hunit : f.least + (e + 1 : Nat) = f.least + e + (1 : Nat) := by
      push_cast
      ring
    rw [hcode, f.magnitude_of_lt (by omega) (Or.inr (Nat.le_refl _)), hunit, scaled_add, pow_one,
      Nat.mul_comm]

/-- Codes are in the order of their magnitudes. -/
theorem magnitude_strictMono : StrictMono f.magnitude := by
  refine strictMono_nat_of_lt_succ fun code => ?_
  obtain ⟨e, count, rfl, upper, lower⟩ := f.exists_binade code
  rw [Nat.add_assoc, f.magnitude_of_lt upper lower,
    f.magnitude_binade (by omega) (lower.imp_right Nat.le_succ_of_le)]
  exact scaled_lt_scaled _ (Nat.lt_succ_self count)

theorem magnitude_nonneg (code : Nat) : 0 ≤ f.magnitude code :=
  scaled_nonneg _ _

/-! ### Encoding -/

/-- The exponent of the unit that `m · 2^q` is rounded to. -/
def unit (m : Nat) (q : Int) : Int :=
  max (q + (m.log2 + 1) - f.precision) f.least

/-- The number of units. -/
def count (m : Nat) (q : Int) : Nat :=
  if f.unit m q ≤ q then m * twoTo (q - f.unit m q).toNat
  else divRoundEven m (twoTo (f.unit m q - q).toNat)

/-- The code of the rounded magnitude, as if no exponent were the greatest. -/
def code (m : Nat) (q : Int) : Nat :=
  (f.unit m q - f.least).toNat * f.binade + f.count m q

/-- A number that is too great for the format gets the code of infinity. -/
theorem encode_eq {m : Nat} (hm : m ≠ 0) (q : Int) : f.encode m q = min f.infinity (f.code m q) := by
  rw [encode, if_neg hm]
  rfl

theorem encode_zero (q : Int) : f.encode 0 q = 0 :=
  if_pos rfl

variable {m : Nat} {q : Int}

theorem least_add_unit : f.least + (f.unit m q - f.least).toNat = f.unit m q := by
  have hle : f.least ≤ f.unit m q := le_max_right _ _
  omega

/-- The significand is the nearest integer to the number in units of its binade. -/
theorem isNearestEven_count :
    IsNearestEven (fun k : Nat => (k : ℚ)) (scaled m (q - f.unit m q)) (f.count m q) := by
  unfold count
  split
  · -- nothing is lost
    obtain ⟨k, hk⟩ := Int.eq_ofNat_of_zero_le (a := q - f.unit m q) (by omega)
    refine IsNearestEven.of_eq natCast_strictMono ?_
    rw [hk, Int.toNat_natCast, twoTo_eq, scaled, zpow_natCast]
    push_cast
    rfl
  · obtain ⟨k, hk⟩ := Int.eq_ofNat_of_zero_le (a := f.unit m q - q) (by omega)
    have hquotient : scaled m (q - f.unit m q) = (m : ℚ) / (2 ^ k : Nat) := by
      rw [← neg_sub, hk, scaled, zpow_neg, zpow_natCast, ← div_eq_mul_inv]
      push_cast
      rfl
    rw [hk, Int.toNat_natCast, twoTo_eq, hquotient]
    exact isNearestEven_divRoundEven m _ (Nat.two_pow_pos k)

variable {f}

theorem two_mul_binade (hp : 2 ≤ f.precision) : 2 * f.binade = 2 ^ f.precision := by
  have hprecision : f.precision = f.precision - 1 + 1 := by omega
  rw [binade, twoTo_eq, hprecision, Nat.pow_succ, Nat.add_sub_cancel, Nat.mul_comm]

/-- A binade of two fractions or more has an even number of them. -/
theorem even_binade (hp : 2 ≤ f.precision) : f.binade % 2 = 0 := by
  have hprecision : f.precision - 1 = f.precision - 2 + 1 := by omega
  rw [binade, twoTo_eq, hprecision, Nat.pow_succ, Nat.mul_mod_left]

/-- What is rounded has no more bits before the unit than the precision. -/
theorem scaled_le_binade (hp : 2 ≤ f.precision) :
    scaled m (q - f.unit m q) ≤ (2 * f.binade : Nat) := by
  have hm : (m : ℚ) ≤ 2 ^ ((m.log2 : Int) + 1) := by
    exact_mod_cast (Nat.lt_log2_self (n := m)).le
  have hunit : q + (m.log2 + 1) - f.precision ≤ f.unit m q := le_max_left _ _
  calc scaled m (q - f.unit m q)
      ≤ 2 ^ ((m.log2 : Int) + 1) * 2 ^ (q - f.unit m q) :=
        mul_le_mul_of_nonneg_right hm (two_zpow_pos _).le
    _ = 2 ^ ((m.log2 : Int) + 1 + (q - f.unit m q)) := (zpow_add₀ (by norm_num) _ _).symm
    _ ≤ 2 ^ (f.precision : Int) := zpow_le_zpow_right₀ (by norm_num) (by omega)
    _ = (2 * f.binade : Nat) := by
      rw [two_mul_binade hp, zpow_natCast]
      push_cast
      rfl

/-- Above the least binade, what is rounded has as many bits before the unit as the precision. -/
theorem binade_le_scaled (hp : 2 ≤ f.precision) (hm : m ≠ 0) (h : f.unit m q ≠ f.least) :
    (f.binade : ℚ) ≤ scaled m (q - f.unit m q) := by
  have hlog : (2 : ℚ) ^ (m.log2 : Int) ≤ m := by
    exact_mod_cast Nat.log2_self_le hm
  -- the unit is above the least one, so it is told by the number of bits
  have hunit : f.unit m q = q + (m.log2 + 1) - f.precision := by
    unfold unit at h ⊢
    omega
  calc (f.binade : ℚ)
      = 2 ^ ((f.precision - 1 : Nat) : Int) := by
        rw [binade, twoTo_eq, zpow_natCast]
        push_cast
        rfl
    _ = 2 ^ ((m.log2 : Int) + (q - f.unit m q)) := by
      congr 1
      omega
    _ = 2 ^ (m.log2 : Int) * 2 ^ (q - f.unit m q) := zpow_add₀ (by norm_num) _ _
    _ ≤ scaled m (q - f.unit m q) := mul_le_mul_of_nonneg_right hlog (two_zpow_pos _).le

theorem magnitude_code (hp : 2 ≤ f.precision) (hm : m ≠ 0) :
    f.magnitude (f.code m q) = scaled (f.count m q) (f.unit m q) := by
  have near := f.isNearestEven_count (m := m) (q := q)
  have upper : f.count m q ≤ 2 * f.binade :=
    near.le_of_le natCast_strictMono (scaled_le_binade hp)
  have lower : (f.unit m q - f.least).toNat = 0 ∨ f.binade ≤ f.count m q := by
    by_cases hunit : f.unit m q = f.least
    · left
      omega
    · exact Or.inr (near.ge_of_ge natCast_strictMono (binade_le_scaled hp hm hunit))
  rw [code, f.magnitude_binade upper lower, least_add_unit]

/-- Every magnitude is a number of units, or lies in a lower binade than what is rounded. -/
theorem magnitude_eq_or_lt (hp : 2 ≤ f.precision) (hm : m ≠ 0) (j : Nat) :
    (∃ c, f.magnitude j = scaled c (f.unit m q)) ∨
      f.magnitude j < scaled f.binade (f.unit m q) ∧ scaled f.binade (f.unit m q) ≤ scaled m q := by
  obtain ⟨e, c, rfl, upper, lower⟩ := f.exists_binade j
  have hleast := f.least_add_unit (m := m) (q := q)
  generalize hE : (f.unit m q - f.least).toNat = E at hleast
  rcases Nat.lt_or_ge e E with hlt | hge
  · right
    constructor
    · -- the binade of the unit begins with code `E * binade + binade`
      rw [← hleast, ← f.magnitude_binade (by omega) (Or.inr (Nat.le_refl _))]
      apply f.magnitude_strictMono
      have hmul := Nat.mul_le_mul_right f.binade (Nat.succ_le_of_lt hlt)
      rw [Nat.succ_mul] at hmul
      omega
    · have hle := binade_le_scaled hp hm (q := q) (by omega)
      have hscale := mul_le_mul_of_nonneg_right hle (two_zpow_pos (f.unit m q)).le
      rwa [scaled, mul_assoc, ← zpow_add₀ (by norm_num), sub_add_cancel] at hscale
  · left
    have hunit : f.least + e = f.unit m q + (e - E : Nat) := by omega
    exact ⟨_, by rw [f.magnitude_of_lt upper lower, hunit, scaled_add]⟩

/-- **Encoding takes the nearest magnitude.** -/
theorem isNearestEven_code (hp : 2 ≤ f.precision) (hm : m ≠ 0) :
    IsNearestEven f.magnitude (scaled m q) (f.code m q) := by
  have near := f.isNearestEven_count (m := m) (q := q)
  have hdist (c : Nat) : |scaled m q - scaled c (f.unit m q)| =
      |scaled m (q - f.unit m q) - c| * 2 ^ f.unit m q := by
    have hscale : scaled m q = scaled m (q - f.unit m q) * 2 ^ f.unit m q := by
      rw [scaled, scaled, mul_assoc, ← zpow_add₀ (by norm_num), sub_add_cancel]
    have hunits : scaled c (f.unit m q) = c * 2 ^ f.unit m q := rfl
    rw [hscale, hunits, ← sub_mul, abs_mul, abs_of_pos (two_zpow_pos _)]
  have hle (c : Nat) : |scaled m q - f.magnitude (f.code m q)| ≤
      |scaled m q - scaled c (f.unit m q)| := by
    rw [magnitude_code hp hm, hdist, hdist]
    exact mul_le_mul_of_nonneg_right (near.nearest c) (two_zpow_pos _).le
  -- a magnitude of a lower binade is farther away than the first of the unit's own
  have hfar {j : Nat} (hj : f.magnitude j < scaled f.binade (f.unit m q))
      (hx : scaled f.binade (f.unit m q) ≤ scaled m q) :
      |scaled m q - f.magnitude (f.code m q)| < |scaled m q - f.magnitude j| := by
    refine (hle f.binade).trans_lt ?_
    rw [abs_of_nonneg (by linarith), abs_of_nonneg (by linarith)]
    linarith
  constructor
  · intro j
    rcases magnitude_eq_or_lt (q := q) hp hm j with ⟨c, hc⟩ | ⟨hj, hx⟩
    · rw [hc]
      exact hle c
    · exact (hfar hj hx).le
  · intro j hj heq
    rcases magnitude_eq_or_lt (q := q) hp hm j with ⟨c, hc⟩ | ⟨hlt, hx⟩
    · have hcount : c ≠ f.count m q := by
        rintro rfl
        exact hj (f.magnitude_strictMono.injective (hc.trans (magnitude_code hp hm).symm))
      rw [hc, magnitude_code hp hm, hdist, hdist] at heq
      have heven := near.even c hcount (mul_right_cancel₀ (two_zpow_pos _).ne' heq)
      rw [code, Nat.add_mod, Nat.mul_mod, even_binade hp, heven, Nat.mul_zero]
    · exact absurd heq (hfar hlt hx).ne

/-- A number with no more bits than the precision is a magnitude itself. -/
theorem magnitude_code_of_lt (hp : 2 ≤ f.precision) (hm : m ≠ 0) (hlt : m < 2 ^ f.precision)
    (hq : f.least ≤ q) : f.magnitude (f.code m q) = scaled m q := by
  have hlog : m.log2 < f.precision := (Nat.log2_lt hm).mpr hlt
  have hunit : f.unit m q ≤ q := by
    unfold unit
    omega
  obtain ⟨k, hk⟩ := Int.eq_ofNat_of_zero_le (a := q - f.unit m q) (by omega)
  have hq' : q = f.unit m q + k := by omega
  rw [magnitude_code hp hm, count, if_pos hunit, hk, Int.toNat_natCast, twoTo_eq, ← scaled_add, ← hq']

/-! ### Overflow -/

theorem infinity_pos (hw : 0 < f.exponentBits) : 0 < f.infinity := by
  have hone : 1 < 2 ^ f.exponentBits := Nat.one_lt_two_pow hw.ne'
  exact Nat.mul_pos (by rw [twoTo_eq]; omega) f.binade_pos

theorem magnitude_zero : f.magnitude 0 = 0 := by
  have hpos := f.binade_pos
  have h : f.magnitude (0 * f.binade + 0) = scaled 0 _ := f.magnitude_of_lt (by omega) (Or.inl rfl)
  rw [Nat.zero_mul, Nat.zero_add] at h
  rw [h, scaled, Nat.cast_zero, zero_mul]

theorem limit_pos (hw : 0 < f.exponentBits) : 0 < f.limit := by
  have hpos : f.magnitude 0 < f.magnitude f.infinity := f.magnitude_strictMono (infinity_pos hw)
  have hnonneg := f.magnitude_nonneg (f.infinity - 1)
  rw [magnitude_zero] at hpos
  unfold limit
  linarith

/-- **What reaches the limit is rounded to infinity, and nothing else is.** -/
theorem encode_lt_infinity_iff (hp : 2 ≤ f.precision) (hw : 0 < f.exponentBits) (m : Nat) (q : Int) :
    f.encode m q < f.infinity ↔ scaled m q < f.limit := by
  rcases Nat.eq_zero_or_pos m with rfl | hm
  · rw [f.encode_zero, scaled, Nat.cast_zero, zero_mul]
    exact iff_of_true (infinity_pos hw) (limit_pos hw)
  · have heven : f.infinity % 2 = 0 := by
      rw [infinity, Nat.mul_mod, even_binade hp, Nat.mul_zero, Nat.zero_mod]
    have near := isNearestEven_code hp hm.ne' (q := q)
    rw [f.encode_eq hm.ne', limit, ← near.lt_iff f.magnitude_strictMono heven (infinity_pos hw)]
    omega

/-- A finite code that rounding answers is that of the nearest magnitude. -/
theorem isNearestEven_encode (hp : 2 ≤ f.precision) {m : Nat} {q : Int}
    (finite : f.encode m q < f.infinity) :
    IsNearestEven f.magnitude (scaled m q) (f.encode m q) := by
  rcases Nat.eq_zero_or_pos m with rfl | hm
  · refine IsNearestEven.of_eq f.magnitude_strictMono ?_
    rw [f.encode_zero, magnitude_zero, scaled, Nat.cast_zero, zero_mul]
  · rw [f.encode_eq hm.ne'] at finite ⊢
    rw [min_eq_right (by omega)]
    exact isNearestEven_code hp hm.ne'

/-- A number that the format has, and that is not rounded to infinity, is encoded as it is. -/
theorem magnitude_encode_of_lt (hp : 2 ≤ f.precision) {m : Nat} {q : Int} (hlt : m < 2 ^ f.precision)
    (hq : f.least ≤ q) (finite : f.encode m q < f.infinity) :
    f.magnitude (f.encode m q) = scaled m q := by
  rcases Nat.eq_zero_or_pos m with rfl | hm
  · rw [f.encode_zero, magnitude_zero, scaled, Nat.cast_zero, zero_mul]
  · rw [f.encode_eq hm.ne'] at finite ⊢
    rw [min_eq_right (by omega)]
    exact magnitude_code_of_lt hp hm.ne' hlt hq

theorem encode_le_infinity (f : Format) (m : Nat) (q : Int) : f.encode m q ≤ f.infinity := by
  rcases Nat.eq_zero_or_pos m with rfl | hm
  · rw [f.encode_zero]
    exact Nat.zero_le _
  · rw [f.encode_eq hm.ne']
    exact min_le_left _ _

end Format

end RecordSql.Number
