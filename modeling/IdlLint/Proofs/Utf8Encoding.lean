import IdlLint.Text.Utf8

/-! Bytes can be decoded exactly if they are the encoding of a text, which is then what they are
decoded to. -/
namespace IdlLint.Text

/-- The bytes of a text. -/
def encodeUtf8 (text : List Char) : List UInt8 :=
  text.flatMap String.utf8EncodeChar

namespace Utf8

private theorem isContinuation_iff {b : UInt8} :
    isContinuation b = true ↔ 128 ≤ b.toNat ∧ b.toNat < 192 := by
  simp [isContinuation, UInt8.le_iff_toNat_le, UInt8.lt_iff_toNat_lt]

/-- What may follow a first byte, in numbers. -/
theorem isSecond_iff {a b : UInt8} : isSecond a b = true ↔ 128 ≤ b.toNat ∧ b.toNat < 192 ∧
    (a.toNat = 224 → 160 ≤ b.toNat) ∧ (a.toNat = 237 → b.toNat < 160) ∧
    (a.toNat = 240 → 144 ≤ b.toNat) ∧ (a.toNat = 244 → b.toNat < 144) := by
  simp only [isSecond, ← UInt8.toNat_inj]
  repeat' split
  all_goals
    simp_all [isContinuation, UInt8.le_iff_toNat_le, UInt8.lt_iff_toNat_lt]
    try omega

section Equations

variable (offset : Nat) {a b c d : UInt8} (rest : List UInt8)

private theorem decodeFrom_one (first : a.toNat < 128) : decodeFrom offset (a :: rest) =
    (decodeFrom (offset + 1) rest).map (Char.ofNat a.toNat :: ·) := by
  have ascii : a < 0x80 := by simpa [UInt8.lt_iff_toNat_lt] using first
  rw [decodeFrom.eq_def]
  simp only [ascii, if_true]

private theorem decodeFrom_two (first : 194 ≤ a.toNat ∧ a.toNat < 224)
    (second : isSecond a b = true) : decodeFrom offset (a :: b :: rest) =
      (decodeFrom (offset + 2) rest).map (compose (a.toNat % 32) [b] :: ·) := by
  have start : ¬a < 0x80 ∧ ¬(a < 0xC2 || 0xF5 ≤ a) = true ∧ a < 0xE0 := by
    simp [UInt8.le_iff_toNat_le, UInt8.lt_iff_toNat_lt]
    omega
  rw [decodeFrom.eq_def]
  simp only [second, Bool.not_true, Bool.false_eq_true, if_false, start, if_true]

private theorem decodeFrom_three (first : 224 ≤ a.toNat ∧ a.toNat < 240)
    (second : isSecond a b = true) (third : isContinuation c = true) :
    decodeFrom offset (a :: b :: c :: rest) =
      (decodeFrom (offset + 3) rest).map (compose (a.toNat % 16) [b, c] :: ·) := by
  have start : ¬a < 0x80 ∧ ¬(a < 0xC2 || 0xF5 ≤ a) = true ∧ ¬a < 0xE0 ∧ a < 0xF0 := by
    simp [UInt8.le_iff_toNat_le, UInt8.lt_iff_toNat_lt]
    omega
  rw [decodeFrom.eq_def]
  simp only [second, third, Bool.not_true, Bool.false_eq_true, if_false, start, if_true]

private theorem decodeFrom_four (first : 240 ≤ a.toNat ∧ a.toNat < 245) (second : isSecond a b = true)
    (third : isContinuation c = true) (fourth : isContinuation d = true) :
    decodeFrom offset (a :: b :: c :: d :: rest) =
      (decodeFrom (offset + 4) rest).map (compose (a.toNat % 8) [b, c, d] :: ·) := by
  have start : ¬a < 0x80 ∧ ¬(a < 0xC2 || 0xF5 ≤ a) = true ∧ ¬a < 0xE0 ∧ ¬a < 0xF0 := by
    simp [UInt8.le_iff_toNat_le, UInt8.lt_iff_toNat_lt]
    omega
  rw [decodeFrom.eq_def]
  simp only [second, third, fourth, Bool.not_true, Bool.false_eq_true, if_false, start]

end Equations

/-! ### From the text to the bytes -/

/-- The bytes of the character with a code point. -/
theorem encodeChar_ofNat {n : Nat} (valid : n < 0xD800 ∨ 0xDFFF < n ∧ n < 0x110000) :
    String.utf8EncodeChar (Char.ofNat n) =
      if n ≤ 127 then [UInt8.ofNat n]
      else if n ≤ 2047 then [UInt8.ofNat (n / 64 % 32 + 192), UInt8.ofNat (n % 64 + 128)]
      else if n ≤ 65535 then
        [UInt8.ofNat (n / 4096 % 16 + 224), UInt8.ofNat (n / 64 % 64 + 128),
          UInt8.ofNat (n % 64 + 128)]
      else
        [UInt8.ofNat (n / 262144 % 8 + 240), UInt8.ofNat (n / 4096 % 64 + 128),
          UInt8.ofNat (n / 64 % 64 + 128), UInt8.ofNat (n % 64 + 128)] := by
  have value : (Char.ofNat n).val.toNat = n := by
    have valid : n.isValidChar := valid
    rw [Char.ofNat, dif_pos valid]
    rfl
  rw [String.utf8EncodeChar.eq_1, value]

section Points

variable (offset : Nat) {n : Nat} (rest : List UInt8)

private theorem decodeFrom_point_one (most : n ≤ 127) : decodeFrom offset (UInt8.ofNat n :: rest) =
    (decodeFrom (offset + 1) rest).map (Char.ofNat n :: ·) := by
  have one := UInt8.toNat_ofNat_of_lt' (show n < 256 by omega)
  rw [decodeFrom_one _ _ (by omega), one]

private theorem decodeFrom_point_two (least : 127 < n) (most : n ≤ 2047) :
    decodeFrom offset (UInt8.ofNat (n / 64 % 32 + 192) :: UInt8.ofNat (n % 64 + 128) :: rest) =
      (decodeFrom (offset + 2) rest).map (Char.ofNat n :: ·) := by
  have one := UInt8.toNat_ofNat_of_lt' (show n / 64 % 32 + 192 < 256 by omega)
  have two := UInt8.toNat_ofNat_of_lt' (show n % 64 + 128 < 256 by omega)
  have whole : 64 * ((n / 64 % 32 + 192) % 32) + (n % 64 + 128) % 64 = n := by omega
  have second : isSecond (UInt8.ofNat (n / 64 % 32 + 192)) (UInt8.ofNat (n % 64 + 128)) = true := by
    rw [isSecond_iff]
    omega
  rw [decodeFrom_two _ _ (by omega) second, compose, List.foldl_cons, List.foldl_nil, one, two,
    whole]

private theorem decodeFrom_point_three (least : 2047 < n) (most : n ≤ 65535)
    (valid : n < 0xD800 ∨ 0xDFFF < n) :
    decodeFrom offset (UInt8.ofNat (n / 4096 % 16 + 224) :: UInt8.ofNat (n / 64 % 64 + 128) ::
        UInt8.ofNat (n % 64 + 128) :: rest) =
      (decodeFrom (offset + 3) rest).map (Char.ofNat n :: ·) := by
  have one := UInt8.toNat_ofNat_of_lt' (show n / 4096 % 16 + 224 < 256 by omega)
  have two := UInt8.toNat_ofNat_of_lt' (show n / 64 % 64 + 128 < 256 by omega)
  have three := UInt8.toNat_ofNat_of_lt' (show n % 64 + 128 < 256 by omega)
  have whole : 64 * (64 * ((n / 4096 % 16 + 224) % 16) + (n / 64 % 64 + 128) % 64) +
      (n % 64 + 128) % 64 = n := by omega
  have second : isSecond (UInt8.ofNat (n / 4096 % 16 + 224))
      (UInt8.ofNat (n / 64 % 64 + 128)) = true := by
    rw [isSecond_iff]
    omega
  have third : isContinuation (UInt8.ofNat (n % 64 + 128)) = true := by
    rw [isContinuation_iff]
    omega
  rw [decodeFrom_three _ _ (by omega) second third, compose, List.foldl_cons, List.foldl_cons,
    List.foldl_nil, one, two, three, whole]

private theorem decodeFrom_point_four (least : 65535 < n) (most : n < 0x110000) :
    decodeFrom offset (UInt8.ofNat (n / 262144 % 8 + 240) :: UInt8.ofNat (n / 4096 % 64 + 128) ::
        UInt8.ofNat (n / 64 % 64 + 128) :: UInt8.ofNat (n % 64 + 128) :: rest) =
      (decodeFrom (offset + 4) rest).map (Char.ofNat n :: ·) := by
  have one := UInt8.toNat_ofNat_of_lt' (show n / 262144 % 8 + 240 < 256 by omega)
  have two := UInt8.toNat_ofNat_of_lt' (show n / 4096 % 64 + 128 < 256 by omega)
  have three := UInt8.toNat_ofNat_of_lt' (show n / 64 % 64 + 128 < 256 by omega)
  have four := UInt8.toNat_ofNat_of_lt' (show n % 64 + 128 < 256 by omega)
  have whole : 64 * (64 * (64 * ((n / 262144 % 8 + 240) % 8) + (n / 4096 % 64 + 128) % 64) +
      (n / 64 % 64 + 128) % 64) + (n % 64 + 128) % 64 = n := by omega
  have second : isSecond (UInt8.ofNat (n / 262144 % 8 + 240))
      (UInt8.ofNat (n / 4096 % 64 + 128)) = true := by
    rw [isSecond_iff]
    omega
  have third : isContinuation (UInt8.ofNat (n / 64 % 64 + 128)) = true := by
    rw [isContinuation_iff]
    omega
  have fourth : isContinuation (UInt8.ofNat (n % 64 + 128)) = true := by
    rw [isContinuation_iff]
    omega
  rw [decodeFrom_four _ _ (by omega) second third fourth, compose, List.foldl_cons,
    List.foldl_cons, List.foldl_cons, List.foldl_nil, one, two, three, four, whole]

end Points

/-- What a character is encoded to is decoded to the character. -/
theorem decodeFrom_encodeChar (offset : Nat) (c : Char) (rest : List UInt8) :
    ∃ next, decodeFrom offset (String.utf8EncodeChar c ++ rest) =
      (decodeFrom next rest).map (c :: ·) := by
  have valid : c.toNat < 0xD800 ∨ 0xDFFF < c.toNat ∧ c.toNat < 0x110000 := c.valid
  rw [← c.ofNat_toNat, encodeChar_ofNat valid]
  split
  · exact ⟨_, decodeFrom_point_one offset rest (by omega)⟩
  · split
    · exact ⟨_, decodeFrom_point_two offset rest (by omega) (by omega)⟩
    · split
      · exact ⟨_, decodeFrom_point_three offset rest (by omega) (by omega) (by omega)⟩
      · exact ⟨_, decodeFrom_point_four offset rest (by omega) (by omega)⟩

private theorem decodeFrom_encode (offset : Nat) (text : List Char) :
    decodeFrom offset (encodeUtf8 text) = .ok text := by
  induction text generalizing offset with
  | nil => rfl
  | cons c text ih =>
    obtain ⟨next, same⟩ := decodeFrom_encodeChar offset c (encodeUtf8 text)
    exact same.trans (by rw [ih]; rfl)

/-! ### From the bytes to the text -/

private theorem ofNat_toNat_of_eq {n : Nat} {b : UInt8} (same : n = b.toNat) : UInt8.ofNat n = b := by
  rw [same, UInt8.ofNat_toNat]

section Characters

variable {a b c d : UInt8}

private theorem encodeChar_one (first : a.toNat < 128) :
    String.utf8EncodeChar (Char.ofNat a.toNat) = [a] := by
  rw [encodeChar_ofNat (by omega), if_pos (by omega), UInt8.ofNat_toNat]

private theorem encodeChar_two (first : 194 ≤ a.toNat ∧ a.toNat < 224)
    (second : isSecond a b = true) :
    String.utf8EncodeChar (compose (a.toNat % 32) [b]) = [a, b] := by
  rw [isSecond_iff] at second
  simp only [compose, List.foldl_cons, List.foldl_nil]
  generalize point : 64 * (a.toNat % 32) + b.toNat % 64 = n
  rw [encodeChar_ofNat (by omega), if_neg (by omega), if_pos (by omega),
    ofNat_toNat_of_eq (b := a) (by omega), ofNat_toNat_of_eq (b := b) (by omega)]

private theorem encodeChar_three (first : 224 ≤ a.toNat ∧ a.toNat < 240)
    (second : isSecond a b = true) (third : isContinuation c = true) :
    String.utf8EncodeChar (compose (a.toNat % 16) [b, c]) = [a, b, c] := by
  rw [isSecond_iff] at second
  rw [isContinuation_iff] at third
  simp only [compose, List.foldl_cons, List.foldl_nil]
  generalize point : 64 * (64 * (a.toNat % 16) + b.toNat % 64) + c.toNat % 64 = n
  rw [encodeChar_ofNat (by omega), if_neg (by omega), if_neg (by omega), if_pos (by omega),
    ofNat_toNat_of_eq (b := a) (by omega), ofNat_toNat_of_eq (b := b) (by omega),
    ofNat_toNat_of_eq (b := c) (by omega)]

private theorem encodeChar_four (first : 240 ≤ a.toNat ∧ a.toNat < 245) (second : isSecond a b = true)
    (third : isContinuation c = true) (fourth : isContinuation d = true) :
    String.utf8EncodeChar (compose (a.toNat % 8) [b, c, d]) = [a, b, c, d] := by
  rw [isSecond_iff] at second
  rw [isContinuation_iff] at third fourth
  simp only [compose, List.foldl_cons, List.foldl_nil]
  generalize point :
    64 * (64 * (64 * (a.toNat % 8) + b.toNat % 64) + c.toNat % 64) + d.toNat % 64 = n
  rw [encodeChar_ofNat (by omega), if_neg (by omega), if_neg (by omega), if_neg (by omega),
    ofNat_toNat_of_eq (b := a) (by omega), ofNat_toNat_of_eq (b := b) (by omega),
    ofNat_toNat_of_eq (b := c) (by omega), ofNat_toNat_of_eq (b := d) (by omega)]

end Characters

/-- Decoding a character and then the rest gives the text of the bytes if decoding the rest does. -/
theorem append_of_map_ok {c : Char} {bytes rest : List UInt8}
    {decoded : Except DecodeError (List Char)} {text : List Char}
    (mapped : decoded.map (c :: ·) = .ok text) (character : String.utf8EncodeChar c = bytes)
    (ih : ∀ {tail}, decoded = .ok tail → rest = encodeUtf8 tail) :
    bytes ++ rest = encodeUtf8 text := by
  cases decoded with
  | error e => cases mapped
  | ok tail =>
    obtain rfl : c :: tail = text := Except.ok.inj mapped
    rw [ih rfl, ← character]
    rfl

private theorem encode_of_decodeFrom {offset : Nat} {bytes : List UInt8} {text : List Char}
    (decoded : decodeFrom offset bytes = .ok text) : bytes = encodeUtf8 text := by
  fun_induction decodeFrom offset bytes generalizing text with
  | case1 =>
    obtain rfl : [] = text := Except.ok.inj decoded
    rfl
  | case2 offset a rest ascii ih =>
    exact append_of_map_ok decoded (encodeChar_one (UInt8.lt_iff_toNat_lt.1 ascii)) ih
  | case6 offset a above start b rest second below ih =>
    simp [UInt8.le_iff_toNat_le, UInt8.lt_iff_toNat_lt] at above start below
    exact append_of_map_ok decoded (encodeChar_two (by omega) (by simpa using second)) ih
  | case9 offset a above start b second two c rest third below ih =>
    simp [UInt8.le_iff_toNat_le, UInt8.lt_iff_toNat_lt] at above start two below
    exact append_of_map_ok decoded
      (encodeChar_three (by omega) (by simpa using second) (by simpa using third)) ih
  | case12 offset a above start b second two c third three d rest fourth ih =>
    simp [UInt8.le_iff_toNat_le, UInt8.lt_iff_toNat_lt] at above start two three
    exact append_of_map_ok decoded
      (encodeChar_four (by omega) (by simpa using second) (by simpa using third)
        (by simpa using fourth)) ih
  | _ => cases decoded

end Utf8

theorem decodeUtf8_eq_ok_iff {bytes : List UInt8} {text : List Char} :
    decodeUtf8 bytes = .ok text ↔ bytes = encodeUtf8 text :=
  ⟨Utf8.encode_of_decodeFrom, fun same => same ▸ Utf8.decodeFrom_encode 0 text⟩

end IdlLint.Text
