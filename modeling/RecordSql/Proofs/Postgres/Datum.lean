import RecordSql.Proofs.Number.Narrowing
import RecordSql.Proofs.Postgres.WriteBack

/-!
# Which values a type of parameters takes faithfully

A parameter may be refused, but what is sent has to be read as the same datum.  The reading is that of a
cell of the type; the datum is the same if a field that holds the value reads the value from it.  A column
of floating point may keep less of a number: the nearest one that it has (`DataType.Keeps`).  What that is
does not depend on how parameters are rounded: a finite number stays finite, and no number of the column's
format is nearer (`Number.Format.IsNearest`, `Number.Double.RoundsTo`).

Whether that is so is settled by the kind of the value: `DataType.suits` lists the kinds that a type takes
faithfully, and for every other kind there is a value that is sent, and then read as something else or not
read at all (`isFaithful_iff_suits`).  Integers adapt to all types but those of truth values, singles and
bytes and the unknown one, where they go as words of eight bytes.  The other kinds do not look at the type
at all, apart from doubles, which become singles.  Singles do not suit doubles, but the only ones they lose
are finite and become infinite, which the second half of `isFaithful_iff_suits` puts in numbers.
-/

namespace RecordSql.Postgres

namespace DataType

/-- The format of a column of floating point. -/
def format? : DataType → Option Number.Format
  | .float4 => some Number.singleFormat
  | .float8 => some Number.doubleFormat
  | _ => none

/-- Whether the value `w` of a cell of type `t` is the datum `v`: a field that holds `v` reads it from `w`,
or `w` is what is left of a number in a column of floating point.  An integer may become a nearest number
of the column's format; a double only in a column of singles, with all that singles can keep of it. -/
def Keeps (t : DataType) (v w : Value) : Prop :=
  match v with
  | .null => w = .null
  | .bool b => Scalar.readBool w = .ok (.bool b)
  | .int it n =>
    Scalar.readInt it w = .ok (.int it n) ∨
      ∃ f y, t.format? = some f ∧ w = .float y ∧ y.IsFinite ∧ f.IsNearest n.val y.value
  | .float x =>
    ∃ y, Scalar.readFloat w = .ok (.float y) ∧
      (y = x ∨ t = .float4 ∧ x.RoundsTo Number.singleFormat y)
  | .text s => Scalar.readText w = .ok (.text s)
  | .bytes bs => Scalar.readBytes w = .ok (.bytes bs)

/-- Whether a parameter of a type may be any value of a kind. -/
def suits (t : DataType) : Kind → Bool
  | .null => true
  | .bool => t == .bool || t == .char
  | .int _ => t.range?.isSome || t == .float8
  | .float => t == .float8
  | .text => t.isText || t == .bytea
  | .bytes => t == .bytea

end DataType

/-- Whether a value is refused as a parameter of type `t`, sent as null because it is null, or sent as a
cell that keeps it. -/
def IsFaithful (t : DataType) (v : Value) : Prop :=
  ∀ cell, encode t v = .ok cell →
    (cell = none ∧ v = .null) ∨
      ∃ bytes w, cell = some bytes ∧ decodeBytes t bytes = .ok w ∧ t.Keeps v w

/-! ### Kinds that a type suits -/

/-- A value is sent faithfully if its bytes are read as a datum that keeps it. -/
theorem isFaithful_of_keeps {t : DataType} {v w : Value} {bytes : List UInt8}
    (hencode : encode t v = .ok (some bytes)) (hdecode : decodeBytes t bytes = .ok w)
    (keeps : t.Keeps v w) : IsFaithful t v := by
  intro cell hcell
  rw [hencode] at hcell
  cases hcell
  exact Or.inr ⟨bytes, w, rfl, hdecode, keeps⟩

theorem isFaithful_null (t : DataType) : IsFaithful t .null := by
  intro cell hcell
  cases hcell
  exact Or.inl ⟨rfl, rfl⟩

theorem isFaithful_bool {t : DataType} (h : t.suits .bool = true) (b : Bool) :
    IsFaithful t (.bool b) := by
  cases t with
  | bool => cases b <;> exact isFaithful_of_keeps rfl rfl rfl
  | char => cases b <;> exact isFaithful_of_keeps rfl rfl rfl
  | _ => cases h

theorem isFaithful_int {t : DataType} {it : IntType} (h : t.suits (.int it) = true) (n : Ranged it) :
    IsFaithful t (.int it n) := by
  cases takes : t.range? with
  | some range =>
    -- what is not refused lies in the range
    intro cell hcell
    have holds := holds_of_encode_int takes hcell
    obtain ⟨bytes, w, hencode, hdecode, denoted⟩ := exists_encodeInt_eq_ok takes holds
    have hsent : encode t (.int it n) = .ok (some bytes) := by
      rw [encode_int, hencode]
      rfl
    have keeps : t.Keeps (.int it n) w := Or.inl (Scalar.readInt_of_denoted? denoted)
    exact isFaithful_of_keeps hsent hdecode keeps cell hcell
  | none =>
    have ht : t = .float8 := by simpa [DataType.suits, takes] using h
    subst ht
    obtain ⟨finite, near⟩ := Number.Double.isNearest_ofInt n.holds
    have keeps : DataType.float8.Keeps (.int it n) (.float (.ofInt n.val)) :=
      Or.inr ⟨_, _, rfl, rfl, finite, near⟩
    exact isFaithful_of_keeps rfl (decodeBytes_doubleBytes _) keeps

theorem isFaithful_float {t : DataType} (h : t.suits .float = true) (x : Number.Double) :
    IsFaithful t (.float x) := by
  cases t with
  | float8 =>
    have keeps : DataType.float8.Keeps (.float x) (.float x) := ⟨x, rfl, Or.inl rfl⟩
    exact isFaithful_of_keeps rfl (decodeBytes_doubleBytes x) keeps
  | _ => cases h

theorem isFaithful_text {t : DataType} (h : t.suits .text = true) (s : String) :
    IsFaithful t (.text s) := by
  cases t with
  | text | varchar | bpchar | name | unknown =>
    exact isFaithful_of_keeps rfl (decodeBytes_encode rfl s) rfl
  | bytea =>
    -- the bytes of a text are read as the text
    have hread : Scalar.readText (.bytes (Text.Utf8.encode s)) = .ok (.text s) := by
      rw [Scalar.readText, Text.Utf8.decode_encode]
    exact isFaithful_of_keeps rfl rfl hread
  | _ => cases h

theorem isFaithful_bytes {t : DataType} (h : t.suits .bytes = true) (bs : List UInt8) :
    IsFaithful t (.bytes bs) := by
  cases t with
  | bytea => exact isFaithful_of_keeps rfl rfl rfl
  | _ => cases h

/-- A value of a kind that suits a type is refused or kept. -/
theorem isFaithful_of_suits {t : DataType} {v : Value} (h : t.suits v.kind = true) :
    IsFaithful t v := by
  cases v with
  | null => exact isFaithful_null t
  | bool b => exact isFaithful_bool h b
  | int it n => exact isFaithful_int h n
  | float x => exact isFaithful_float h x
  | text s => exact isFaithful_text h s
  | bytes bs => exact isFaithful_bytes h bs

/-! ### Kinds that a type does not suit -/

/-- A value is not sent faithfully if its bytes are read as a datum that does not keep it, or not at all. -/
theorem not_isFaithful_of_lost {t : DataType} {v : Value} {bytes : List UInt8}
    (hencode : encode t v = .ok (some bytes))
    (lost : ∀ w, decodeBytes t bytes = .ok w → ¬ t.Keeps v w) : ¬ IsFaithful t v := by
  intro h
  rcases h _ hencode with ⟨hnone, -⟩ | ⟨bytes', w, hbytes, hdecode, keeps⟩
  · cases hnone
  · cases hbytes
    exact lost w hdecode keeps

/-- The byte of a truth value is too short for numbers, and no truth value as a text or as bytes. -/
theorem not_isFaithful_true {t : DataType} (h : t.suits .bool = false) :
    ¬ IsFaithful t (.bool true) := by
  refine not_isFaithful_of_lost rfl fun w hw keeps => ?_
  cases t with
  | bool | char => cases h
  | int2 | int4 | int8 | oid | float4 | float8 | other => cases hw
  | bytea =>
    cases hw
    cases keeps
  | text | varchar | bpchar | name | unknown =>
    obtain ⟨s, rfl, -⟩ := text_of_decodeBytes rfl hw
    cases keeps

/-- Eight zero bytes are what a type gets for zero if it does not adapt it. -/
theorem not_isFaithful_zero {t : DataType} {it : IntType} (h : t.suits (.int it) = false) :
    ¬ IsFaithful t (.int it ⟨0, it.holds_zero⟩) := by
  cases t with
  | bool | float4 | other =>
    refine not_isFaithful_of_lost rfl fun w hw _ => ?_
    cases hw
  | bytea =>
    refine not_isFaithful_of_lost rfl fun w hw keeps => ?_
    cases hw
    rcases keeps with hread | ⟨f, y, -, hfloat, -⟩
    · cases hread
    · cases hfloat
  | unknown =>
    -- a text, but no numeral
    let zeros := "\x00\x00\x00\x00\x00\x00\x00\x00"
    have hbytes : integerBytes 8 0 = Text.Utf8.encode zeros := by decide
    have hdenoted : Text.integer? zeros = none := by decide
    have hencode : encode .unknown (.int it ⟨0, it.holds_zero⟩) = .ok (some (integerBytes 8 0)) :=
      rfl
    refine not_isFaithful_of_lost hencode fun w hw keeps => ?_
    rw [hbytes, decodeBytes_encode rfl] at hw
    cases hw
    rcases keeps with hread | ⟨f, y, -, hfloat, -⟩
    · rw [Scalar.readInt, Value.denoted?, hdenoted] at hread
      cases hread
    · cases hfloat
  | _ => cases h

/-- A finite double that comes back infinite from a column of singles is another number there. -/
theorem not_isFaithful_of_isInfinite {x : Number.Double} (hx : x.IsFinite)
    (infinite : x.toSingle.toDouble.isInfinite = true) : ¬ IsFaithful .float4 (.float x) := by
  refine not_isFaithful_of_lost rfl fun w hw keeps => ?_
  rw [if_pos rfl, decodeBytes_singleBytes] at hw
  cases hw
  obtain ⟨y, hread, hy⟩ := keeps
  cases hread
  obtain ⟨hne, hlost⟩ := hx.lost_of_isInfinite infinite
  rcases hy with hy | ⟨-, kept⟩
  · exact hne hy
  · exact hlost _ kept

/-- **A column of singles takes a double faithfully unless it is finite and rounds to infinity**, which is
so from halfway to the power of two after the greatest single. -/
theorem isFaithful_float4_iff (x : Number.Double) :
    IsFaithful .float4 (.float x) ↔ (x.IsFinite → |x.value| < 2 ^ 128 - 2 ^ 103) := by
  constructor
  · intro faithful hx
    by_contra hlimit
    rw [← Number.singleFormat_limit] at hlimit
    exact not_isFaithful_of_isInfinite hx (x.isInfinite_of_limit_le hx (not_lt.mp hlimit)) faithful
  · intro h
    have keeps : DataType.float4.Keeps (.float x) (.float x.toSingle.toDouble) :=
      ⟨_, rfl, Or.inr ⟨rfl, x.roundsTo_toDouble_iff.mpr h⟩⟩
    exact isFaithful_of_keeps rfl (decodeBytes_singleBytes _) keeps

/-- The greatest power of two among the doubles is infinite as a single. -/
theorem not_isFaithful_huge : ¬ IsFaithful .float4 (.float ⟨0x7FE0000000000000⟩) :=
  not_isFaithful_of_isInfinite (by decide +kernel) (by decide +kernel)

/-- The word of the double one is the integer 4607182418800017408 to a column of integers, and its bytes
are no text that a double is read from. -/
theorem not_isFaithful_one {t : DataType} (h : t.suits .float = false) (single : t ≠ .float4) :
    ¬ IsFaithful t (.float ⟨0x3FF0000000000000⟩) := by
  cases t with
  | float8 => cases h
  | float4 => exact absurd rfl single
  | bool | char | int2 | int4 | oid | other =>
    refine not_isFaithful_of_lost rfl fun w hw _ => ?_
    cases hw
  | int8 =>
    refine not_isFaithful_of_lost rfl fun w hw keeps => ?_
    cases hw
    have hread : Scalar.readFloat (.int .i64 ⟨4607182418800017408, by decide⟩) =
        .ok (.float ⟨0x43CFF80000000000⟩) := by decide +kernel
    obtain ⟨y, hy, rfl | ⟨hsingle, -⟩⟩ := keeps
    · exact absurd (hread.symm.trans hy) (by decide)
    · cases hsingle
  | bytea =>
    refine not_isFaithful_of_lost rfl fun w hw keeps => ?_
    cases hw
    obtain ⟨y, hread, -⟩ := keeps
    cases hread
  -- whatever text the bytes are, a double field reads none
  | text | varchar | bpchar | name | unknown =>
    refine not_isFaithful_of_lost rfl fun w hw keeps => ?_
    obtain ⟨s, rfl, -⟩ := text_of_decodeBytes rfl hw
    obtain ⟨y, hread, -⟩ := keeps
    cases hread

/-- No number and no truth value has an empty cell. -/
theorem not_isFaithful_empty {t : DataType} (h : t.suits .text = false) :
    ¬ IsFaithful t (.text "") := by
  refine not_isFaithful_of_lost rfl fun w hw _ => ?_
  cases t with
  | text | varchar | bpchar | name | unknown | bytea => cases h
  | _ => cases hw

/-- Bytes that begin no character, and are too many or too few for any width. -/
theorem not_isFaithful_badBytes {t : DataType} (h : t.suits .bytes = false) :
    ¬ IsFaithful t (.bytes [0xFF, 0xFF, 0xFF]) := by
  refine not_isFaithful_of_lost rfl fun w hw _ => ?_
  cases t with
  | bytea => cases h
  | text | varchar | bpchar | name | unknown =>
    have hdecode : Text.Utf8.decode [0xFF, 0xFF, 0xFF] = .error ⟨0, some 1⟩ := by decide +kernel
    rw [decodeBytes_of_decode_error rfl hdecode] at hw
    cases hw
  | _ => cases hw

/-- For a kind that does not suit a type there is a value that the type does not take faithfully. -/
theorem exists_not_isFaithful {t : DataType} {k : Kind} (h : t.suits k = false) :
    ∃ v : Value, v.kind = k ∧ ¬ IsFaithful t v := by
  cases k with
  | null => cases h
  | bool => exact ⟨_, rfl, not_isFaithful_true h⟩
  | int it => exact ⟨_, rfl, not_isFaithful_zero h⟩
  | float =>
    by_cases single : t = .float4
    · subst single
      exact ⟨_, rfl, not_isFaithful_huge⟩
    · exact ⟨_, rfl, not_isFaithful_one h single⟩
  | text => exact ⟨_, rfl, not_isFaithful_empty h⟩
  | bytes => exact ⟨_, rfl, not_isFaithful_badBytes h⟩

/-- **A type takes all values of a kind faithfully exactly if it suits the kind**, and a column of singles
takes exactly the doubles that it does not make infinite. -/
theorem isFaithful_iff_suits (t : DataType) (k : Kind) :
    ((∀ v : Value, v.kind = k → IsFaithful t v) ↔ t.suits k = true) ∧
    ∀ x : Number.Double,
      IsFaithful .float4 (.float x) ↔ (x.IsFinite → |x.value| < 2 ^ 128 - 2 ^ 103) := by
  refine ⟨⟨fun faithful => ?_, ?_⟩, isFaithful_float4_iff⟩
  · by_contra hsuits
    obtain ⟨v, hkind, lost⟩ := exists_not_isFaithful (Bool.eq_false_iff.mpr hsuits)
    exact lost (faithful v hkind)
  · rintro h v rfl
    exact isFaithful_of_suits h

/-- A single of four bytes gets an integer as a word of eight, which is none of its cells. -/
theorem encode_seven_float4 :
    let seven : Value := .int .i64 ⟨7, by decide⟩
    encode .float4 seven = .ok (some [0, 0, 0, 0, 0, 0, 0, 7]) ∧
      decode .float4 (some [0, 0, 0, 0, 0, 0, 0, 7]) = .error .malformed ∧
      ¬ IsFaithful .float4 seven := by
  refine ⟨rfl, rfl, not_isFaithful_of_lost rfl fun w hw _ => ?_⟩
  cases hw

end RecordSql.Postgres
