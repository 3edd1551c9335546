import RecordSql.Number.Double
import RecordSql.Proofs.IntegerRange
import RecordSql.Proofs.Number.Rounding

/-!
# Numbers in a column of floating point

A format holds some rational numbers exactly, and the nearest one that it holds stands for any other number
(`Format.IsNearest`).  A double becomes a single and comes back as a double: `Double.RoundsTo` says what
remains of it, without mention of how it is rounded.  Only a finite double that reaches the limit of the
singles is lost, because it comes back infinite (`Double.roundsTo_toDouble_iff`).  No integer type reaches
the limit of the doubles (`Double.isNearest_ofInt`).
-/

namespace RecordSql.Number

/-- The number with the given sign and magnitude. -/
def signed (negative : Bool) (magnitude : ℚ) : ℚ :=
  if negative then -magnitude else magnitude

theorem abs_signed (negative : Bool) {a : ℚ} (h : 0 ≤ a) : |signed negative a| = a := by
  cases negative with
  | false => exact abs_of_nonneg h
  | true => exact (abs_neg a).trans (abs_of_nonneg h)

theorem abs_signed_sub_signed (negative : Bool) (a b : ℚ) :
    |signed negative a - signed negative b| = |a - b| := by
  cases negative with
  | false => rfl
  | true =>
    show |-a - -b| = |a - b|
    rw [neg_sub_neg, abs_sub_comm]

namespace Format

variable (f g : Format)

/-- Whether `y` is one of the finite numbers of the format. -/
def Represents (y : ℚ) : Prop :=
  ∃ code, code < f.infinity ∧ |y| = f.magnitude code

/-- Whether `y` is a finite number of the format, and none of them is nearer to `x`. -/
structure IsNearest (x y : ℚ) : Prop where
  represents : f.Represents y
  nearest : ∀ z, f.Represents z → |x - y| ≤ |x - z|

variable {f g}

/-- The nearest magnitude with the sign of a number is the nearest number. -/
theorem isNearest_signed {a : ℚ} {k : Nat} (negative : Bool) (ha : 0 ≤ a)
    (near : IsNearestEven f.magnitude a k) (finite : k < f.infinity) :
    f.IsNearest (signed negative a) (signed negative (f.magnitude k)) where
  represents := ⟨k, finite, abs_signed negative (f.magnitude_nonneg k)⟩
  nearest := by
    rintro z ⟨j, -, hz⟩
    calc |signed negative a - signed negative (f.magnitude k)|
        = |a - f.magnitude k| := abs_signed_sub_signed negative _ _
      _ ≤ |a - f.magnitude j| := near.nearest j
      _ = |(|signed negative a| - |z|)| := by rw [abs_signed negative ha, hz]
      _ ≤ |signed negative a - z| := abs_abs_sub_abs_le_abs_sub _ _

/-! ### Conversion between formats -/

theorem decode_lt (hp : 2 ≤ f.precision) (code : Nat) : (f.decode code).1 < 2 ^ f.precision := by
  have hmod := Nat.mod_lt code f.binade_pos
  rw [← two_mul_binade hp]
  unfold decode
  dsimp only
  split <;> omega

theorem least_le_decode (f : Format) (code : Nat) : f.least ≤ (f.decode code).2 := by
  unfold decode
  dsimp only
  generalize code / f.binade = field
  split <;> omega

/-- A finite code is converted by its significand and its exponent. -/
theorem convert_of_lt {code : Nat} (h : code < f.infinity) :
    f.convert g code = g.encode (f.decode code).1 (f.decode code).2 :=
  if_pos h

theorem convert_infinity : f.convert g f.infinity = g.infinity := by
  rw [convert, if_neg (Nat.lt_irrefl _), if_pos rfl]

/-- What is not a number is converted to a code beyond infinity, within the patterns of bits. -/
theorem convert_of_gt (hp : 2 ≤ g.precision) {code : Nat} (h : f.infinity < code) :
    g.infinity < f.convert g code ∧ f.convert g code < g.infinity + g.binade := by
  have heven := even_binade hp
  have hpos := g.binade_pos
  have hmod := Nat.mod_lt ((code - f.infinity) * g.binade / f.binade)
    (y := g.binade / 2) (by omega)
  unfold convert
  rw [if_neg (by omega), if_neg (by omega)]
  dsimp only
  omega

theorem convert_lt (hp : 2 ≤ g.precision) (code : Nat) :
    f.convert g code < g.infinity + g.binade := by
  have hpos := g.binade_pos
  rcases Nat.lt_trichotomy code f.infinity with h | rfl | h
  · rw [convert_of_lt h]
    have := g.encode_le_infinity (f.decode code).1 (f.decode code).2
    omega
  · rw [convert_infinity]
    omega
  · exact (convert_of_gt hp h).2

/-- A finite code converts to a finite one exactly if its magnitude is below the limit. -/
theorem convert_lt_infinity_iff (hp : 2 ≤ g.precision) (hw : 0 < g.exponentBits) {code : Nat}
    (h : code < f.infinity) : f.convert g code < g.infinity ↔ f.magnitude code < g.limit := by
  rw [convert_of_lt h, encode_lt_infinity_iff hp hw]
  rfl

/-- The format `g` has every finite number of `f`. -/
structure Extends (g f : Format) : Prop where
  precision : f.precision ≤ g.precision
  least : g.least ≤ f.least
  limit : f.magnitude f.infinity ≤ g.limit

/-- **Conversion to a format that has all the numbers loses nothing.** -/
theorem Extends.magnitude_convert (ext : g.Extends f) (hp : 2 ≤ f.precision)
    (hw : 0 < g.exponentBits) {code : Nat} (h : code < f.infinity) :
    f.convert g code < g.infinity ∧ g.magnitude (f.convert g code) = f.magnitude code := by
  have hp' : 2 ≤ g.precision := hp.trans ext.precision
  have finite : f.convert g code < g.infinity :=
    (convert_lt_infinity_iff hp' hw h).mpr ((f.magnitude_strictMono h).trans_le ext.limit)
  refine ⟨finite, ?_⟩
  rw [convert_of_lt h] at finite ⊢
  have hm : (f.decode code).1 < 2 ^ g.precision :=
    (decode_lt hp code).trans_le (Nat.pow_le_pow_right (by decide) ext.precision)
  exact magnitude_encode_of_lt hp' hm (ext.least.trans (f.least_le_decode code)) finite

end Format

/-! ### The two formats -/

theorem singleFormat_magnitude_infinity : singleFormat.magnitude singleFormat.infinity = 2 ^ 128 := by
  have next : singleFormat.decode singleFormat.infinity = (8388608, 105) := by decide +kernel
  rw [Format.magnitude, next, scaled]
  norm_num

/-- Halfway between the greatest single and the power of two after it. -/
theorem singleFormat_limit : singleFormat.limit = 2 ^ 128 - 2 ^ 103 := by
  have last : singleFormat.decode (singleFormat.infinity - 1) = (16777215, 104) := by decide +kernel
  rw [Format.limit, singleFormat_magnitude_infinity, Format.magnitude, last, scaled]
  norm_num

/-- Halfway between the greatest double and the power of two after it. -/
theorem doubleFormat_limit : doubleFormat.limit = 2 ^ 1024 - 2 ^ 970 := by
  have last : doubleFormat.decode (doubleFormat.infinity - 1) = (9007199254740991, 971) := by
    decide +kernel
  have next : doubleFormat.decode doubleFormat.infinity = (4503599627370496, 972) := by
    decide +kernel
  have hlast : (2 : ℚ) ^ (971 : Int) = 2 * 2 ^ 970 := by rw [← pow_succ']; rfl
  have hnext : (2 : ℚ) ^ (972 : Int) = 4 * 2 ^ 970 := by
    rw [show (4 : ℚ) = 2 ^ 2 by norm_num, ← pow_add]
    rfl
  have hpower : (2 : ℚ) ^ 1024 = 2 ^ 54 * 2 ^ 970 := by rw [← pow_add]
  rw [Format.limit, Format.magnitude, Format.magnitude, last, next, scaled, scaled, hlast, hnext, hpower]
  -- the power is far too great to be computed
  generalize (2 : ℚ) ^ 970 = p
  norm_num
  ring

/-- The doubles have every finite single. -/
theorem doubleFormat_extends : doubleFormat.Extends singleFormat where
  precision := by decide
  least := by decide
  limit := by
    have hpower : (2 : ℚ) ^ 1024 = 2 ^ 54 * 2 ^ 970 := by rw [← pow_add]
    have hmono : (2 : ℚ) ^ 128 ≤ 2 ^ 970 := pow_le_pow_right₀ (by norm_num) (by norm_num)
    rw [doubleFormat_limit, singleFormat_magnitude_infinity, hpower]
    generalize (2 : ℚ) ^ 970 = p at hmono ⊢
    norm_num at hmono ⊢
    linarith

/-! ### Words -/

namespace Double

/-- Whether `x` is finite. -/
def IsFinite (x : Double) : Prop :=
  x.code < doubleFormat.infinity

instance (x : Double) : Decidable x.IsFinite :=
  inferInstanceAs (Decidable (x.code < doubleFormat.infinity))

/-- The number that a finite double stands for. -/
def value (x : Double) : ℚ :=
  signed x.negative (doubleFormat.magnitude x.code)

/-- What a format keeps of the double `x` is the double `y`: no number of one that is none, the same
infinity, and of a finite one the sign and the nearest number. -/
inductive RoundsTo (f : Format) (x y : Double) : Prop
  | notANumber (hx : x.isNaN = true) (hy : y.isNaN = true)
  | infinite (hx : x.isInfinite = true) (hy : y = x)
  | finite (hx : x.IsFinite) (hy : y.IsFinite) (sign : y.negative = x.negative)
      (nearest : f.IsNearest x.value y.value)

theorem toNat_bits_make (negative : Bool) {code : Nat} (h : code < 2 ^ 63) :
    (make negative code).bits.toNat = (if negative then 2 ^ 63 else 0) + code := by
  apply UInt64.toNat_ofNat_of_lt'
  cases negative <;> simp [UInt64.size] at h ⊢ <;> omega

@[simp] theorem code_make (negative : Bool) {code : Nat} (h : code < 2 ^ 63) :
    (make negative code).code = code := by
  rw [Double.code, toNat_bits_make negative h]
  cases negative <;> simp <;> omega

@[simp] theorem negative_make (negative : Bool) {code : Nat} (h : code < 2 ^ 63) :
    (make negative code).negative = negative := by
  rw [Double.negative, toNat_bits_make negative h]
  cases negative with
  | false => exact decide_eq_false (by simp; omega)
  | true => exact decide_eq_true (by simp)

theorem isFinite_make_iff (negative : Bool) {code : Nat} (h : code < 2 ^ 63) :
    (make negative code).IsFinite ↔ code < doubleFormat.infinity := by
  rw [IsFinite, code_make negative h]

/-- A double has the value of its code, under its sign. -/
theorem value_make (negative : Bool) {code : Nat} (h : code < 2 ^ 63) :
    (make negative code).value = signed negative (doubleFormat.magnitude code) := by
  rw [value, code_make negative h, negative_make negative h]

/-- A double is its sign and its code. -/
theorem make_negative_code (x : Double) : make x.negative x.code = x := by
  have hlt : x.bits.toNat < 2 ^ 64 := x.bits.toNat_lt
  have hbits : (if x.negative then 0x8000000000000000 else 0) + x.code = x.bits.toNat := by
    unfold Double.negative Double.code
    simp only [decide_eq_true_eq]
    split <;> omega
  rw [make, hbits, UInt64.ofNat_toNat]

theorem isNaN_iff (x : Double) : x.isNaN = true ↔ doubleFormat.infinity < x.code :=
  decide_eq_true_iff

theorem isInfinite_iff (x : Double) : x.isInfinite = true ↔ x.code = doubleFormat.infinity :=
  beq_iff_eq

/-- An infinity is no finite number, and no format keeps a finite number as one. -/
theorem IsFinite.lost_of_isInfinite {x y : Double} (hx : x.IsFinite) (hy : y.isInfinite = true) :
    y ≠ x ∧ ∀ f, ¬ RoundsTo f x y := by
  have hcode := y.isInfinite_iff.mp hy
  have hlt : x.code < doubleFormat.infinity := hx
  have hne : y ≠ x := by
    rintro rfl
    omega
  refine ⟨hne, fun f kept => ?_⟩
  cases kept with
  | notANumber nan => exact absurd (x.isNaN_iff.mp nan) (by omega)
  | infinite _ same => exact hne same
  | finite _ finite =>
    rw [IsFinite, hcode] at finite
    exact Nat.lt_irrefl _ finite

end Double

namespace Single

theorem toNat_bits_make (negative : Bool) {code : Nat} (h : code < 2 ^ 31) :
    (make negative code).bits.toNat = (if negative then 2 ^ 31 else 0) + code := by
  apply UInt32.toNat_ofNat_of_lt'
  cases negative <;> simp [UInt32.size] at h ⊢ <;> omega

@[simp] theorem code_make (negative : Bool) {code : Nat} (h : code < 2 ^ 31) :
    (make negative code).code = code := by
  rw [Single.code, toNat_bits_make negative h]
  cases negative <;> simp <;> omega

@[simp] theorem negative_make (negative : Bool) {code : Nat} (h : code < 2 ^ 31) :
    (make negative code).negative = negative := by
  rw [Single.negative, toNat_bits_make negative h]
  cases negative with
  | false => exact decide_eq_false (by simp; omega)
  | true => exact decide_eq_true (by simp)

end Single

namespace Double

/-! ### Integers as doubles -/

theorem signed_natAbs (n : Int) : signed (n < 0) n.natAbs = n := by
  rcases lt_or_ge n 0 with h | h
  · rw [signed, decide_eq_true h, if_pos rfl, Nat.cast_natAbs, abs_of_neg h, Int.cast_neg, neg_neg]
  · rw [signed, decide_eq_false (by omega), if_neg Bool.false_ne_true, Nat.cast_natAbs, abs_of_nonneg h]

/-- Every integer that a type holds is far below the greatest double. -/
theorem natAbs_lt_limit {t : IntType} {n : Int} (holds : t.Holds n) :
    scaled n.natAbs 0 < doubleFormat.limit := by
  obtain ⟨least, greatest⟩ := holds.widest
  have hn : n.natAbs < 2 ^ 128 := by
    simp only [IntType.least, IntType.greatest] at least greatest
    omega
  have hlimit : (2 : ℚ) ^ 128 ≤ doubleFormat.limit := by
    have h := doubleFormat_extends.limit
    rw [singleFormat_magnitude_infinity] at h
    exact h
  rw [scaled, zpow_zero, mul_one]
  exact lt_of_lt_of_le (by exact_mod_cast hn) hlimit

/-- **The double of an integer is finite, and no double is nearer to the integer.** -/
theorem isNearest_ofInt {t : IntType} {n : Int} (holds : t.Holds n) :
    (ofInt n).IsFinite ∧ doubleFormat.IsNearest n (ofInt n).value := by
  have hp : 2 ≤ doubleFormat.precision := by decide
  have finite := (Format.encode_lt_infinity_iff hp (by decide) _ _).mpr (natAbs_lt_limit holds)
  have hcode : doubleFormat.encode n.natAbs 0 < 2 ^ 63 := finite.trans (by decide)
  have near := Format.isNearest_signed (n < 0) (scaled_nonneg _ _)
    (Format.isNearestEven_encode hp finite) finite
  have hscaled : scaled n.natAbs 0 = n.natAbs := by rw [scaled, zpow_zero, mul_one]
  rw [hscaled, signed_natAbs] at near
  rw [ofInt, isFinite_make_iff _ hcode, value_make _ hcode]
  exact ⟨finite, near⟩

/-! ### Doubles as singles -/

variable (x : Double)

/-- The code of the single that `x` becomes. -/
def singleCode : Nat :=
  doubleFormat.convert singleFormat x.code

theorem singleCode_lt : x.singleCode < 2 ^ 31 :=
  Format.convert_lt (by decide) x.code

theorem widened_lt (code : Nat) : singleFormat.convert doubleFormat code < 2 ^ 63 :=
  Format.convert_lt (by decide) code

/-- Narrowing and widening again keep the sign. -/
theorem toDouble_toSingle :
    x.toSingle.toDouble = make x.negative (singleFormat.convert doubleFormat x.singleCode) := by
  have hsingle : x.toSingle = .make x.negative x.singleCode := rfl
  rw [hsingle, Single.toDouble, Single.code_make _ x.singleCode_lt,
    Single.negative_make _ x.singleCode_lt]

/-- A finite double below the limit of the singles comes back as a nearest single. -/
theorem roundsTo_of_lt_limit (hx : x.IsFinite) (h : |x.value| < singleFormat.limit) :
    RoundsTo singleFormat x x.toSingle.toDouble := by
  have hp : 2 ≤ singleFormat.precision := by decide
  rw [value, abs_signed _ (doubleFormat.magnitude_nonneg _)] at h
  have finite : x.singleCode < singleFormat.infinity :=
    (Format.convert_lt_infinity_iff hp (by decide) hx).mpr h
  have near : IsNearestEven singleFormat.magnitude (doubleFormat.magnitude x.code) x.singleCode := by
    rw [singleCode, Format.convert_of_lt hx] at finite ⊢
    exact Format.isNearestEven_encode hp finite
  -- the way back keeps the magnitude of the single
  obtain ⟨wide, same⟩ := doubleFormat_extends.magnitude_convert hp (by decide) finite
  have hback := widened_lt x.singleCode
  rw [toDouble_toSingle]
  refine .finite hx ((isFinite_make_iff _ hback).mpr wide) (negative_make _ hback) ?_
  rw [value_make _ hback, same]
  exact Format.isNearest_signed _ (doubleFormat.magnitude_nonneg _) near finite

/-- A finite double that reaches the limit of the singles comes back infinite. -/
theorem isInfinite_of_limit_le (hx : x.IsFinite) (h : singleFormat.limit ≤ |x.value|) :
    x.toSingle.toDouble.isInfinite = true := by
  rw [value, abs_signed _ (doubleFormat.magnitude_nonneg _)] at h
  have hge : singleFormat.infinity ≤ x.singleCode := by
    rw [← not_lt, singleCode, Format.convert_lt_infinity_iff (by decide) (by decide) hx]
    exact not_lt.mpr h
  have hle : x.singleCode ≤ singleFormat.infinity := by
    rw [singleCode, Format.convert_of_lt hx]
    exact Format.encode_le_infinity _ _ _
  have hcode : x.singleCode = singleFormat.infinity := Nat.le_antisymm hle hge
  rw [toDouble_toSingle, isInfinite_iff, hcode, Format.convert_infinity, code_make _ (by decide)]

/-- An infinite double stays infinite. -/
theorem roundsTo_of_isInfinite (hx : x.isInfinite = true) :
    RoundsTo singleFormat x x.toSingle.toDouble := by
  have hcode := x.isInfinite_iff.mp hx
  refine .infinite hx ?_
  rw [toDouble_toSingle, singleCode, hcode, Format.convert_infinity, Format.convert_infinity, ← hcode,
    make_negative_code]

/-- What is not a number stays none. -/
theorem roundsTo_of_isNaN (hx : x.isNaN = true) : RoundsTo singleFormat x x.toSingle.toDouble := by
  have hcode := x.isNaN_iff.mp hx
  have single := (Format.convert_of_gt (f := doubleFormat) (g := singleFormat) (by decide) hcode).1
  have double := (Format.convert_of_gt (f := singleFormat) (g := doubleFormat) (by decide) single).1
  refine .notANumber hx ?_
  rw [toDouble_toSingle, isNaN_iff, code_make _ (widened_lt _)]
  exact double

/-- **A double comes back from the singles as what they keep of it, unless it is finite and reaches their
limit**, from where on they have infinity only. -/
theorem roundsTo_toDouble_iff :
    RoundsTo singleFormat x x.toSingle.toDouble ↔ (x.IsFinite → |x.value| < 2 ^ 128 - 2 ^ 103) := by
  rw [← singleFormat_limit]
  constructor
  · intro kept hx
    by_contra h
    exact (hx.lost_of_isInfinite (x.isInfinite_of_limit_le hx (not_lt.mp h))).2 _ kept
  · intro h
    rcases Nat.lt_trichotomy x.code doubleFormat.infinity with hx | hx | hx
    · exact x.roundsTo_of_lt_limit hx (h hx)
    · exact x.roundsTo_of_isInfinite (x.isInfinite_iff.mpr hx)
    · exact x.roundsTo_of_isNaN (x.isNaN_iff.mpr hx)

end Double

end RecordSql.Number
