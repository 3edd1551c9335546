/-!
# UTF-8

Encoding is character by character.  Decoding looks at the start of a byte sequence, which is either
a whole character, an *invalid* stretch of one to three bytes that no continuation could complete,
or *incomplete*: a proper beginning of a character that the sequence ends in.  An invalid stretch is
as long as possible while it is still the beginning of some character, and at least one byte.

A strict reading stops at the first stretch that is no character and reports where it is; a lenient
reading puts `U+FFFD` in place of each.
-/

namespace RecordSql.Text.Utf8

/-- Why a byte sequence is not UTF-8: the `index` of the first byte outside a character, and the
`width` of the invalid stretch there, or `none` when the sequence ends inside a character. -/
structure Issue where
  index : Nat
  width : Option Nat
deriving DecidableEq, Repr

/-- How a non-empty byte sequence starts.  A whole character or an invalid stretch is followed by
the number of bytes after the first that belong to it. -/
inductive Start where
  | char (c : Char) (more : Nat)
  | invalid (more : Nat)
  | incomplete
deriving DecidableEq, Repr

/-- Whether `b` continues a character. -/
def isTail (b : UInt8) : Bool :=
  0x80 ≤ b.toNat && b.toNat ≤ 0xBF

/-- The least second byte after the leading byte `lead`: overlong forms are excluded. -/
def secondMin (lead : Nat) : Nat :=
  if lead = 0xE0 then 0xA0 else if lead = 0xF0 then 0x90 else 0x80

/-- The greatest second byte after the leading byte `lead`: surrogates and everything above
`U+10FFFF` are excluded. -/
def secondMax (lead : Nat) : Nat :=
  if lead = 0xED then 0x9F else if lead = 0xF4 then 0x8F else 0xBF

/-- Whether `b` may follow the leading byte `lead`. -/
def isSecond (lead : Nat) (b : UInt8) : Bool :=
  secondMin lead ≤ b.toNat && b.toNat ≤ secondMax lead

/-- The six bits that a continuing byte carries. -/
def tailBits (b : UInt8) : Nat :=
  b.toNat - 0x80

/-- How the sequence `b :: rest` starts. -/
def start (b : UInt8) (rest : List UInt8) : Start :=
  let lead := b.toNat
  if lead < 0x80 then .char (Char.ofNat lead) 0
  else if lead < 0xC2 then .invalid 0
  else if lead < 0xE0 then
    match rest with
    | [] => .incomplete
    | b₁ :: _ =>
      if isTail b₁ then .char (Char.ofNat ((lead - 0xC0) * 64 + tailBits b₁)) 1 else .invalid 0
  else if lead < 0xF0 then
    match rest with
    | [] => .incomplete
    | b₁ :: rest₁ =>
      if !isSecond lead b₁ then .invalid 0
      else match rest₁ with
        | [] => .incomplete
        | b₂ :: _ =>
          if isTail b₂ then
            .char (Char.ofNat ((lead - 0xE0) * 4096 + tailBits b₁ * 64 + tailBits b₂)) 2
          else .invalid 1
  else if lead < 0xF5 then
    match rest with
    | [] => .incomplete
    | b₁ :: rest₁ =>
      if !isSecond lead b₁ then .invalid 0
      else match rest₁ with
        | [] => .incomplete
        | b₂ :: rest₂ =>
          if !isTail b₂ then .invalid 1
          else match rest₂ with
            | [] => .incomplete
            | b₃ :: _ =>
              if isTail b₃ then
                .char (Char.ofNat ((lead - 0xF0) * 262144 + tailBits b₁ * 4096
                  + tailBits b₂ * 64 + tailBits b₃)) 3
              else .invalid 2
  else .invalid 0

/-- The characters of `bytes`, whose first byte has the given index, or the first issue. -/
def decodeFrom (index : Nat) : List UInt8 → Except Issue (List Char)
  | [] => .ok []
  | b :: rest =>
    match start b rest with
    | .char c more => (c :: ·) <$> decodeFrom (index + more + 1) (rest.drop more)
    | .invalid more => .error ⟨index, some (more + 1)⟩
    | .incomplete => .error ⟨index, none⟩
termination_by bytes => bytes.length
decreasing_by simp only [List.length_drop, List.length_cons]; omega

/-- The characters of `bytes`, with `U+FFFD` for each stretch that is none. -/
def decodeLenientChars : List UInt8 → List Char
  | [] => []
  | b :: rest =>
    match start b rest with
    | .char c more => c :: decodeLenientChars (rest.drop more)
    | .invalid more => '\uFFFD' :: decodeLenientChars (rest.drop more)
    | .incomplete => ['\uFFFD']
termination_by bytes => bytes.length
decreasing_by all_goals simp only [List.length_drop, List.length_cons]; omega

/-- The UTF-8 bytes of `s`. -/
def encode (s : String) : List UInt8 :=
  s.toList.flatMap String.utf8EncodeChar

/-- The text that `bytes` encode. -/
def decode (bytes : List UInt8) : Except Issue String :=
  String.ofList <$> decodeFrom 0 bytes

/-- The text that `bytes` encode when every stretch that is no character is replaced. -/
def decodeLenient (bytes : List UInt8) : String :=
  String.ofList (decodeLenientChars bytes)

end RecordSql.Text.Utf8
