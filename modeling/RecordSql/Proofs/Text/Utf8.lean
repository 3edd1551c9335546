import RecordSql.Text.Utf8

/-!
# Texts from their bytes

The bytes of a text are read back as the text, strictly as well as leniently: the start of an encoded
character is that character (`start_encodeChar`), whatever follows it.  No other bytes are read as that
text (`encode_eq_of_decode`): whatever starts as a character starts with its bytes (`encodeChar_of_start`),
because the bounds of the second byte leave out every longer spelling.
-/

namespace RecordSql.Text.Utf8

theorem toNat_ofNat_of_lt {n : Nat} (h : n < 256) : (UInt8.ofNat n).toNat = n :=
  UInt8.toNat_ofNat_of_lt' h

theorem isTail_ofNat {n : Nat} (h : n < 64) : isTail (UInt8.ofNat (n + 128)) = true := by
  rw [isTail, toNat_ofNat_of_lt (by omega)]
  simp only [Bool.and_eq_true, decide_eq_true_eq]
  omega

theorem tailBits_ofNat {n : Nat} (h : n < 64) : tailBits (UInt8.ofNat (n + 128)) = n := by
  have hb : (UInt8.ofNat (n + 128)).toNat = n + 128 := toNat_ofNat_of_lt (by omega)
  unfold tailBits
  omega

/-- The bounds of the second byte leave out the overlong forms, the surrogates, and what is too
great. -/
theorem isSecond_ofNat {lead n : Nat} (h : n < 64) (overlong₃ : lead = 0xE0 → 32 ≤ n)
    (surrogate : lead = 0xED → n < 32) (overlong₄ : lead = 0xF0 → 16 ≤ n)
    (great : lead = 0xF4 → n < 16) : isSecond lead (UInt8.ofNat (n + 128)) = true := by
  rw [isSecond, toNat_ofNat_of_lt (by omega), secondMin, secondMax]
  simp only [Bool.and_eq_true, decide_eq_true_eq]
  constructor
  · split
    · have := overlong₃ ‹_›
      omega
    · split
      · have := overlong₄ ‹_›
        omega
      · omega
  · split
    · have := surrogate ‹_›
      omega
    · split
      · have := great ‹_›
        omega
      · omega

/-! ### The bytes of one character -/

theorem start_one {v : Nat} (upper : v ≤ 127) (rest : List UInt8) :
    start (UInt8.ofNat v) rest = .char (Char.ofNat v) 0 := by
  rw [start.eq_def, toNat_ofNat_of_lt (by omega)]
  exact if_pos (by omega)

/-- A character of two bytes is read from them. -/
theorem start_two {v : Nat} (lower : 127 < v) (upper : v ≤ 2047) (rest : List UInt8) :
    start (UInt8.ofNat (v / 64 % 32 + 192)) (UInt8.ofNat (v % 64 + 128) :: rest) =
      .char (Char.ofNat v) 1 := by
  have hlead : v / 64 % 32 = v / 64 := Nat.mod_eq_of_lt (by omega)
  have hsum : (v / 64 + 192 - 0xC0) * 64 + v % 64 = v := by omega
  rw [hlead, start.eq_def, toNat_ofNat_of_lt (by omega)]
  simp only
  rw [if_neg (by omega), if_neg (by omega), if_pos (by omega), if_pos (isTail_ofNat (by omega)),
    tailBits_ofNat (by omega), hsum]

/-- Surrogates are no characters, so three bytes leave them out. -/
theorem start_three {v : Nat} (lower : 2047 < v) (upper : v ≤ 65535)
    (surrogate : v < 0xD800 ∨ 0xDFFF < v) (rest : List UInt8) :
    start (UInt8.ofNat (v / 4096 % 16 + 224))
      (UInt8.ofNat (v / 64 % 64 + 128) :: UInt8.ofNat (v % 64 + 128) :: rest) =
      .char (Char.ofNat v) 2 := by
  have hlead : v / 4096 % 16 = v / 4096 := Nat.mod_eq_of_lt (by omega)
  have hsum : (v / 4096 + 224 - 0xE0) * 4096 + v / 64 % 64 * 64 + v % 64 = v := by omega
  have hsecond : isSecond (v / 4096 + 224) (UInt8.ofNat (v / 64 % 64 + 128)) = true :=
    isSecond_ofNat (by omega) (by omega) (by omega) (by omega) (by omega)
  rw [hlead, start.eq_def, toNat_ofNat_of_lt (by omega)]
  simp only
  rw [if_neg (by omega), if_neg (by omega), if_neg (by omega), if_pos (by omega), hsecond,
    if_neg (by decide), if_pos (isTail_ofNat (by omega)), tailBits_ofNat (by omega),
    tailBits_ofNat (by omega), hsum]

theorem start_four {v : Nat} (lower : 65535 < v) (upper : v < 0x110000) (rest : List UInt8) :
    start (UInt8.ofNat (v / 262144 % 8 + 240))
      (UInt8.ofNat (v / 4096 % 64 + 128) :: UInt8.ofNat (v / 64 % 64 + 128) ::
        UInt8.ofNat (v % 64 + 128) :: rest) =
      .char (Char.ofNat v) 3 := by
  have hlead : v / 262144 % 8 = v / 262144 := Nat.mod_eq_of_lt (by omega)
  have hsum : (v / 262144 + 240 - 0xF0) * 262144 + v / 4096 % 64 * 4096 + v / 64 % 64 * 64
      + v % 64 = v := by omega
  have hsecond : isSecond (v / 262144 + 240) (UInt8.ofNat (v / 4096 % 64 + 128)) = true :=
    isSecond_ofNat (by omega) (by omega) (by omega) (by omega) (by omega)
  rw [hlead, start.eq_def, toNat_ofNat_of_lt (by omega)]
  simp only
  rw [if_neg (by omega), if_neg (by omega), if_neg (by omega), if_neg (by omega),
    if_pos (by omega), hsecond, if_neg (by decide), isTail_ofNat (by omega), if_neg (by decide),
    if_pos (isTail_ofNat (by omega)), tailBits_ofNat (by omega), tailBits_ofNat (by omega),
    tailBits_ofNat (by omega), hsum]

/-- The code points of characters leave out the surrogates. -/
theorem toNat_bounds (c : Char) : c.toNat < 0xD800 ∨ 0xDFFF < c.toNat ∧ c.toNat < 0x110000 :=
  c.valid

/-- The number of bytes of a character is told by three bounds. -/
theorem encodeChar_eq (c : Char) :
    String.utf8EncodeChar c =
      if c.toNat ≤ 127 then [UInt8.ofNat c.toNat]
      else if c.toNat ≤ 2047 then
        [UInt8.ofNat (c.toNat / 64 % 32 + 192), UInt8.ofNat (c.toNat % 64 + 128)]
      else if c.toNat ≤ 65535 then
        [UInt8.ofNat (c.toNat / 4096 % 16 + 224), UInt8.ofNat (c.toNat / 64 % 64 + 128),
          UInt8.ofNat (c.toNat % 64 + 128)]
      else
        [UInt8.ofNat (c.toNat / 262144 % 8 + 240), UInt8.ofNat (c.toNat / 4096 % 64 + 128),
          UInt8.ofNat (c.toNat / 64 % 64 + 128), UInt8.ofNat (c.toNat % 64 + 128)] := rfl

/-- The bytes of a character start with that character. -/
theorem start_encodeChar (c : Char) (rest : List UInt8) :
    ∃ b more, String.utf8EncodeChar c = b :: more ∧
      start b (more ++ rest) = .char c more.length := by
  have hv := toNat_bounds c
  have hc : Char.ofNat c.toNat = c := Char.ofNat_toNat c
  rw [encodeChar_eq]
  -- one case for each number of bytes
  by_cases h₁ : c.toNat ≤ 127
  · exact ⟨_, [], if_pos h₁, (start_one h₁ rest).trans (congrArg (Start.char · 0) hc)⟩
  rw [if_neg h₁]
  by_cases h₂ : c.toNat ≤ 2047
  · exact ⟨_, [_], if_pos h₂,
      (start_two (by omega) h₂ rest).trans (congrArg (Start.char · 1) hc)⟩
  rw [if_neg h₂]
  by_cases h₃ : c.toNat ≤ 65535
  · exact ⟨_, [_, _], if_pos h₃,
      (start_three (by omega) h₃ (by omega) rest).trans (congrArg (Start.char · 2) hc)⟩
  · exact ⟨_, [_, _, _], if_neg h₃,
      (start_four (by omega) (by omega) rest).trans (congrArg (Start.char · 3) hc)⟩

/-! ### The bytes of a text -/

/-- Bytes of characters are decoded as the characters. -/
theorem decodeFrom_encodeChars (index : Nat) (cs : List Char) :
    decodeFrom index (cs.flatMap String.utf8EncodeChar) = .ok cs := by
  induction cs generalizing index with
  | nil => rw [List.flatMap_nil, decodeFrom]
  | cons c cs ih =>
    obtain ⟨b, more, hbytes, hstart⟩ := start_encodeChar c (cs.flatMap String.utf8EncodeChar)
    rw [List.flatMap_cons, hbytes, List.cons_append, decodeFrom, hstart]
    show (c :: ·) <$> decodeFrom _ ((more ++ _).drop more.length) = _
    rw [List.drop_left, ih]
    rfl

theorem decodeLenientChars_encodeChars (cs : List Char) :
    decodeLenientChars (cs.flatMap String.utf8EncodeChar) = cs := by
  induction cs with
  | nil => rw [List.flatMap_nil, decodeLenientChars]
  | cons c cs ih =>
    obtain ⟨b, more, hbytes, hstart⟩ := start_encodeChar c (cs.flatMap String.utf8EncodeChar)
    rw [List.flatMap_cons, hbytes, List.cons_append, decodeLenientChars, hstart]
    show c :: decodeLenientChars ((more ++ _).drop more.length) = _
    rw [List.drop_left, ih]

/-- The bytes of a text are UTF-8 and encode that text. -/
theorem decode_encode (s : String) : decode (encode s) = .ok s := by
  rw [decode, encode, decodeFrom_encodeChars]
  exact congrArg Except.ok s.ofList_toList

/-- Nothing in the bytes of a text is replaced. -/
theorem decodeLenient_encode (s : String) : decodeLenient (encode s) = s := by
  rw [decodeLenient, encode, decodeLenientChars_encodeChars, String.ofList_toList]

/-! ### The characters of bytes -/

theorem toNat_ofNat_char {n : Nat} (valid : n < 0xD800 ∨ 0xDFFF < n ∧ n < 0x110000) :
    (Char.ofNat n).toNat = n := by
  have hvalid : n.isValidChar := valid
  rw [Char.ofNat, dif_pos hvalid]
  rfl

theorem eq_of_toNat_eq {n : Nat} {b : UInt8} (h : n = b.toNat) : UInt8.ofNat n = b := by
  rw [h, UInt8.ofNat_toNat]

/-- The byte that carries six bits, if it continues a character. -/
theorem toNat_of_isTail {b : UInt8} (h : isTail b = true) :
    b.toNat = tailBits b + 0x80 ∧ tailBits b < 64 := by
  unfold isTail at h
  rw [Bool.and_eq_true, decide_eq_true_eq, decide_eq_true_eq] at h
  unfold tailBits
  omega

/-- The second byte of a character has narrower bounds behind four of the first bytes. -/
theorem toNat_of_isSecond {lead : Nat} {b : UInt8} (h : isSecond lead b = true) :
    b.toNat = tailBits b + 0x80 ∧ tailBits b < 64 ∧ (lead = 0xE0 → 32 ≤ tailBits b) ∧
      (lead = 0xED → tailBits b < 32) ∧ (lead = 0xF0 → 16 ≤ tailBits b) ∧
      (lead = 0xF4 → tailBits b < 16) := by
  unfold isSecond at h
  rw [Bool.and_eq_true, decide_eq_true_eq, decide_eq_true_eq] at h
  -- the bounds are `80` and `BF` behind every other first byte
  have least : 0x80 ≤ secondMin lead ∧ (lead = 0xE0 → secondMin lead = 0xA0) ∧
      (lead = 0xF0 → secondMin lead = 0x90) := by
    unfold secondMin
    split
    · omega
    · split <;> omega
  have greatest : secondMax lead ≤ 0xBF ∧ (lead = 0xED → secondMax lead = 0x9F) ∧
      (lead = 0xF4 → secondMax lead = 0x8F) := by
    unfold secondMax
    split
    · omega
    · split <;> omega
  unfold tailBits
  omega

theorem encodeChar_one {b : UInt8} (upper : b.toNat < 0x80) :
    String.utf8EncodeChar (Char.ofNat b.toNat) = [b] := by
  have hv : (Char.ofNat b.toNat).toNat = b.toNat := toNat_ofNat_char (by omega)
  rw [encodeChar_eq, hv, if_pos (by omega), UInt8.ofNat_toNat]

theorem encodeChar_two {b b₁ : UInt8} (lower : 0xC2 ≤ b.toNat) (upper : b.toNat < 0xE0)
    (tail : isTail b₁ = true) :
    String.utf8EncodeChar (Char.ofNat ((b.toNat - 0xC0) * 64 + tailBits b₁)) = [b, b₁] := by
  have h₁ := toNat_of_isTail tail
  generalize hv : (b.toNat - 0xC0) * 64 + tailBits b₁ = v
  rw [encodeChar_eq, toNat_ofNat_char (by omega), if_neg (by omega), if_pos (by omega),
    eq_of_toNat_eq (b := b) (by omega), eq_of_toNat_eq (b := b₁) (by omega)]

theorem encodeChar_three {b b₁ b₂ : UInt8} (lower : 0xE0 ≤ b.toNat) (upper : b.toNat < 0xF0)
    (second : isSecond b.toNat b₁ = true) (tail : isTail b₂ = true) :
    String.utf8EncodeChar
      (Char.ofNat ((b.toNat - 0xE0) * 4096 + tailBits b₁ * 64 + tailBits b₂)) = [b, b₁, b₂] := by
  have h₁ := toNat_of_isSecond second
  have h₂ := toNat_of_isTail tail
  generalize hv : (b.toNat - 0xE0) * 4096 + tailBits b₁ * 64 + tailBits b₂ = v
  rw [encodeChar_eq, toNat_ofNat_char (by omega), if_neg (by omega), if_neg (by omega),
    if_pos (by omega), eq_of_toNat_eq (b := b) (by omega), eq_of_toNat_eq (b := b₁) (by omega),
    eq_of_toNat_eq (b := b₂) (by omega)]

theorem encodeChar_four {b b₁ b₂ b₃ : UInt8} (lower : 0xF0 ≤ b.toNat) (upper : b.toNat < 0xF5)
    (second : isSecond b.toNat b₁ = true) (tail₂ : isTail b₂ = true) (tail₃ : isTail b₃ = true) :
    String.utf8EncodeChar (Char.ofNat ((b.toNat - 0xF0) * 262144 + tailBits b₁ * 4096
      + tailBits b₂ * 64 + tailBits b₃)) = [b, b₁, b₂, b₃] := by
  have h₁ := toNat_of_isSecond second
  have h₂ := toNat_of_isTail tail₂
  have h₃ := toNat_of_isTail tail₃
  generalize hv : (b.toNat - 0xF0) * 262144 + tailBits b₁ * 4096 + tailBits b₂ * 64
    + tailBits b₃ = v
  rw [encodeChar_eq, toNat_ofNat_char (by omega), if_neg (by omega), if_neg (by omega),
    if_neg (by omega), eq_of_toNat_eq (b := b) (by omega), eq_of_toNat_eq (b := b₁) (by omega),
    eq_of_toNat_eq (b := b₂) (by omega), eq_of_toNat_eq (b := b₃) (by omega)]

/-- What starts as a character starts with the bytes of that character: it has no other spelling. -/
theorem encodeChar_of_start {b : UInt8} {rest : List UInt8} {c : Char} {more : Nat}
    (h : start b rest = .char c more) : String.utf8EncodeChar c = b :: rest.take more := by
  rw [start.eq_def] at h
  dsimp only at h
  -- the leading byte tells how many bytes there are; a start that lacks one of them is no character
  split at h
  · obtain ⟨rfl, rfl⟩ := Start.char.inj h
    exact encodeChar_one ‹_›
  split at h
  · cases h
  split at h
  · rcases rest with _ | ⟨b₁, rest⟩
    · cases h
    dsimp only at h
    split at h
    · rename_i tail
      obtain ⟨rfl, rfl⟩ := Start.char.inj h
      exact encodeChar_two (by omega) ‹_› tail
    · cases h
  split at h
  · rcases rest with _ | ⟨b₁, rest⟩
    · cases h
    dsimp only at h
    split at h
    · cases h
    rename_i second
    rw [Bool.not_eq_true, Bool.not_eq_false'] at second
    rcases rest with _ | ⟨b₂, rest⟩
    · cases h
    dsimp only at h
    split at h
    · rename_i tail
      obtain ⟨rfl, rfl⟩ := Start.char.inj h
      exact encodeChar_three (by omega) ‹_› second tail
    · cases h
  split at h
  · rcases rest with _ | ⟨b₁, rest⟩
    · cases h
    dsimp only at h
    split at h
    · cases h
    rename_i second
    rw [Bool.not_eq_true, Bool.not_eq_false'] at second
    rcases rest with _ | ⟨b₂, rest⟩
    · cases h
    dsimp only at h
    split at h
    · cases h
    rename_i tail₂
    rw [Bool.not_eq_true, Bool.not_eq_false'] at tail₂
    rcases rest with _ | ⟨b₃, rest⟩
    · cases h
    dsimp only at h
    split at h
    · rename_i tail₃
      obtain ⟨rfl, rfl⟩ := Start.char.inj h
      exact encodeChar_four (by omega) ‹_› second tail₂ tail₃
    · cases h
  · cases h

/-- What is read as characters is the bytes of these characters. -/
theorem encodeChars_of_decodeFrom {index : Nat} {bytes : List UInt8} {cs : List Char}
    (h : decodeFrom index bytes = .ok cs) : cs.flatMap String.utf8EncodeChar = bytes := by
  fun_induction decodeFrom index bytes generalizing cs with
  | case1 index =>
    cases h
    rfl
  | case2 index b rest c more hstart ih =>
    cases hrest : decodeFrom (index + more + 1) (rest.drop more) with
    | error issue =>
      rw [hrest] at h
      cases h
    | ok ds =>
      rw [hrest] at h
      cases h
      -- the character is encoded as the bytes it was read from, the rest by induction
      rw [List.flatMap_cons, ih hrest, encodeChar_of_start hstart, List.cons_append,
        List.take_append_drop]
  | case3 index b rest more hstart => cases h
  | case4 index b rest hstart => cases h

/-- **Bytes are read as a text only if they are its bytes**, so a text has no other spelling. -/
theorem encode_eq_of_decode {bytes : List UInt8} {s : String} (h : decode bytes = .ok s) :
    encode s = bytes := by
  rw [decode] at h
  cases hchars : decodeFrom 0 bytes with
  | error issue =>
    rw [hchars] at h
    cases h
  | ok cs =>
    rw [hchars] at h
    cases h
    rw [encode, String.toList_ofList, encodeChars_of_decodeFrom hchars]

end RecordSql.Text.Utf8
