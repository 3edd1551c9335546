import RecordSql.Proofs.Postgres.Integer

/-!
# Writing back what was read

A value that was read from a cell is written to a column of the same type as the cell it came from
(`encode_decoded`).  Each type comes back by its own way: integers by their width, doubles by their word,
texts because no other bytes are read as them.  Two readings lose something.  A column of singles hands
out doubles, and every byte but zero is true.
-/

namespace RecordSql.Postgres

/-! ### Floating point -/

/-- The word of a double is read as the double, whatever number or none it stands for. -/
theorem decodeBytes_doubleBytes (x : Number.Double) :
    decodeBytes .float8 (doubleBytes x) = .ok (.float x) := by
  have hlength : (doubleBytes x).length = 8 := length_wordBytes 8 _
  have hword : wordOf (doubleBytes x) = x.bits.toNat := wordOf_wordBytes_of_lt x.bits.toNat_lt
  unfold decodeBytes
  dsimp only
  rw [if_neg (by rw [hlength]; decide), hword, UInt64.ofNat_toNat]

/-- The word of a single is read as the double with its value. -/
theorem decodeBytes_singleBytes (x : Number.Single) :
    decodeBytes .float4 (singleBytes x) = .ok (.float x.toDouble) := by
  have hlength : (singleBytes x).length = 4 := length_wordBytes 4 _
  have hword : wordOf (singleBytes x) = x.bits.toNat := wordOf_wordBytes_of_lt x.bits.toNat_lt
  unfold decodeBytes
  dsimp only
  rw [if_neg (by rw [hlength]; decide), hword, UInt32.ofNat_toNat]

theorem doubleBytes_of_decodeBytes {bytes : List UInt8} {v : Value}
    (decoded : decodeBytes .float8 bytes = .ok v) : ∃ x, v = .float x ∧ doubleBytes x = bytes := by
  unfold decodeBytes at decoded
  dsimp only at decoded
  by_cases hlength : bytes.length = 8
  · rw [if_neg (by simpa using hlength)] at decoded
    cases decoded
    refine ⟨_, rfl, ?_⟩
    -- eight bytes make a word that is kept as it is
    have hlt := wordOf_lt bytes
    rw [hlength] at hlt
    rw [doubleBytes, UInt64.toNat_ofNat_of_lt' hlt, ← hlength, wordBytes_wordOf]
  · rw [if_pos hlength] at decoded
    cases decoded

/-! ### The way back of each type -/

/-- An integer is written back as the bytes that it was read from. -/
theorem encode_of_word {t : DataType} {range : IntType} (h : t.word? = some range)
    {bytes : List UInt8} {v : Value} (decoded : decodeBytes t bytes = .ok v) :
    encode t v = .ok (some bytes) := by
  obtain ⟨width, read, fixed, hencode, hdecode⟩ := exists_fixedWidth h
  rw [hdecode] at decoded
  obtain ⟨n, rfl, hbytes⟩ := fixed.encodeInteger_of_decodeInteger decoded
  rw [encode_int, hencode, hbytes]
  rfl

/-- A column of texts hands out texts only, and each from its own bytes alone. -/
theorem text_of_decodeBytes {t : DataType} (text : t.isText = true) {bytes : List UInt8} {v : Value}
    (decoded : decodeBytes t bytes = .ok v) : ∃ s, v = .text s ∧ Text.Utf8.encode s = bytes := by
  cases hs : Text.Utf8.decode bytes with
  | error issue =>
    rw [decodeBytes_of_decode_error text hs] at decoded
    cases decoded
  | ok s =>
    have hbytes := Text.Utf8.encode_eq_of_decode hs
    rw [← hbytes, decodeBytes_encode text] at decoded
    cases decoded
    exact ⟨s, rfl, hbytes⟩

/-- A truth value is written back as the byte that it was read from, if that is zero or one. -/
theorem encode_of_bool {bytes : List UInt8} {v : Value}
    (decoded : decodeBytes .bool bytes = .ok v) (truth : ∀ b, bytes = [b] → b = 0 ∨ b = 1) :
    encode .bool v = .ok (some bytes) := by
  unfold decodeBytes at decoded
  dsimp only at decoded
  split at decoded
  · rename_i b
    cases decoded
    rcases truth b rfl with rfl | rfl <;> rfl
  · cases decoded

/-- **What was read is written back as it was**, null included, unless it was a single, or a truth value
that is neither of the two bytes that truth values are written as. -/
theorem encode_decoded {t : DataType} {cell : Option (List UInt8)} {v : Value}
    (decoded : decode t cell = .ok v) (exact : t ≠ .float4)
    (truth : t = .bool → ∀ b, cell = some [b] → b = 0 ∨ b = 1) : encode t v = .ok cell := by
  cases cell with
  | none =>
    have hv : v = .null := by
      cases t <;> cases decoded <;> rfl
    rw [hv]
    rfl
  | some bytes =>
    rw [decode_some] at decoded
    -- each type writes what it reads by a rule of its own
    cases t with
    | bool => exact encode_of_bool decoded fun b hb => truth rfl b (congrArg some hb)
    | char | int2 | int4 | int8 | oid => exact encode_of_word rfl decoded
    | float4 => exact absurd rfl exact
    | float8 =>
      obtain ⟨x, rfl, hbytes⟩ := doubleBytes_of_decodeBytes decoded
      rw [encode, if_neg (by decide), hbytes]
    | bytea =>
      cases decoded
      rfl
    | text | varchar | bpchar | name | unknown =>
      obtain ⟨s, rfl, hbytes⟩ := text_of_decodeBytes rfl decoded
      rw [encode, hbytes]
    | other typeName => cases decoded

/-- Bytes of several characters, and of a character that takes several, come back. -/
theorem encode_decoded_euro :
    let bytes : List UInt8 := [0x35, 0x20, 0xE2, 0x82, 0xAC]
    decode .bpchar (some bytes) = .ok (.text "5 €") ∧ DataType.bpchar ≠ .float4 ∧
      encode .bpchar (.text "5 €") = .ok (some bytes) := by
  intro bytes
  have decoded : decode .bpchar (some bytes) = .ok (.text "5 €") := by
    have hbytes : bytes = Text.Utf8.encode "5 €" := by decide
    rw [decode_some, hbytes]
    exact decodeBytes_encode rfl "5 €"
  exact ⟨decoded, by decide, encode_decoded decoded (by decide) fun h => by cases h⟩

end RecordSql.Postgres
