import Mathlib.Tactic.Lemma
import SealedChat.Bytes.Utf8

/-!
# Texts and their bytes

Reading accepts exactly the bytes of texts (`decode_eq_ok_iff`): every text is read back from its
bytes, and a byte string that is read as a text has no other spelling. Both directions come from the
four shapes that a character has in bytes.
-/

namespace SealedChat.Utf8

/-! ### Characters and the ranges of their bytes -/

lemma toNat_valid (c : Char) : c.toNat < 0xD800 ∨ 0xDFFF < c.toNat ∧ c.toNat < 0x110000 := c.valid

/-- A number that is a character is the number of that character. -/
lemma toNat_ofNat {n : Nat} (h : n < 0xD800 ∨ 0xDFFF < n ∧ n < 0x110000) : (Char.ofNat n).toNat = n := by
  have hn : n.isValidChar := h
  unfold Char.ofNat
  rw [dif_pos hn]
  rfl

section Bytes

variable {a b : UInt8}

lemma isTail_iff : isTail a = true ↔ 0x80 ≤ a.toNat ∧ a.toNat ≤ 0xBF := by
  simp [isTail, UInt8.le_iff_toNat_le]

/-- The second byte of a character, as a bound on numbers. -/
lemma isSecond_iff : isSecond a b = true ↔
    0x80 ≤ b.toNat ∧ b.toNat ≤ 0xBF ∧ (a.toNat = 0xE0 → 0xA0 ≤ b.toNat) ∧ (a.toNat = 0xED → b.toNat ≤ 0x9F) ∧
      (a.toNat = 0xF0 → 0x90 ≤ b.toNat) ∧ (a.toNat = 0xF4 → b.toNat ≤ 0x8F) := by
  unfold isSecond
  simp only [← UInt8.toNat_inj, UInt8.reduceToNat]
  split
  · simp [UInt8.le_iff_toNat_le]; omega
  split
  · simp [UInt8.le_iff_toNat_le]; omega
  split
  · simp [UInt8.le_iff_toNat_le]; omega
  split
  · simp [UInt8.le_iff_toNat_le]; omega
  · rw [isTail_iff]; omega

end Bytes

/-! ### Reading one character -/

section Reading

variable (index : Nat) (read : List Char) {a b c d : UInt8} (rest : Bytes)

lemma decodeFrom_one (h : a.toNat < 0x80) :
    decodeFrom index read (a :: rest) = decodeFrom (index + 1) (Char.ofNat a.toNat :: read) rest := by
  rw [decodeFrom.eq_def]
  exact if_pos (UInt8.lt_iff_toNat_lt.2 h)

lemma decodeFrom_two (ha : 0xC2 ≤ a.toNat ∧ a.toNat < 0xE0) (hb : isSecond a b = true) :
    decodeFrom index read (a :: b :: rest) = decodeFrom (index + 2) (char2 a b :: read) rest := by
  rw [decodeFrom.eq_def]
  simp only
  rw [if_neg (by simp [UInt8.lt_iff_toNat_lt]; omega), if_neg (by simp [UInt8.lt_iff_toNat_lt]; omega),
    if_neg (by simp [hb]), if_pos (by simp [UInt8.lt_iff_toNat_lt]; omega)]

lemma decodeFrom_three (ha : 0xE0 ≤ a.toNat ∧ a.toNat < 0xF0) (hb : isSecond a b = true) (hc : isTail c = true) :
    decodeFrom index read (a :: b :: c :: rest) = decodeFrom (index + 3) (char3 a b c :: read) rest := by
  rw [decodeFrom.eq_def]
  simp only
  rw [if_neg (by simp [UInt8.lt_iff_toNat_lt]; omega), if_neg (by simp [UInt8.lt_iff_toNat_lt]; omega),
    if_neg (by simp [hb]), if_neg (by simp [UInt8.lt_iff_toNat_lt]; omega), if_neg (by simp [hc]),
    if_pos (by simp [UInt8.lt_iff_toNat_lt]; omega)]

lemma decodeFrom_four (ha : 0xF0 ≤ a.toNat ∧ a.toNat ≤ 0xF4) (hb : isSecond a b = true) (hc : isTail c = true)
    (hd : isTail d = true) :
    decodeFrom index read (a :: b :: c :: d :: rest) = decodeFrom (index + 4) (char4 a b c d :: read) rest := by
  rw [decodeFrom.eq_def]
  simp only
  rw [if_neg (by simp [UInt8.lt_iff_toNat_lt]; omega), if_neg (by simp [UInt8.lt_iff_toNat_lt]; omega),
    if_neg (by simp [hb]), if_neg (by simp [UInt8.lt_iff_toNat_lt]; omega), if_neg (by simp [hc]),
    if_neg (by simp [UInt8.lt_iff_toNat_lt]; omega), if_neg (by simp [hd])]

end Reading

/-! ### From a character to its bytes and back -/

/-- Reading the bytes of a character gives the character, whatever follows. -/
lemma decodeFrom_encodeChar (index : Nat) (read : List Char) (char : Char) (rest : Bytes) :
    decodeFrom index read (String.utf8EncodeChar char ++ rest) =
      decodeFrom (index + (String.utf8EncodeChar char).length) (char :: read) rest := by
  have valid := toNat_valid char
  have self : Char.ofNat char.toNat = char := Char.ofNat_toNat char
  have toNat_byte {n : Nat} (h : n < 256) : (UInt8.ofNat n).toNat = n := by simp; omega
  rw [String.utf8EncodeChar]
  simp only [show char.val.toNat = char.toNat from rfl]
  generalize char.toNat = n at *
  split
  · -- one byte
    have ha := toNat_byte (n := n) (by omega)
    generalize UInt8.ofNat n = a at *
    rw [List.singleton_append, decodeFrom_one _ _ _ (by omega), ha, self, List.length_singleton]
  split
  · -- two bytes
    have ha := toNat_byte (n := n / 64 % 32 + 0xC0) (by omega)
    have hb := toNat_byte (n := n % 64 + 0x80) (by omega)
    generalize UInt8.ofNat (n / 64 % 32 + 0xC0) = a at *
    generalize UInt8.ofNat (n % 64 + 0x80) = b at *
    have same : char2 a b = char := by
      rw [← self, char2]
      congr 1
      omega
    rw [List.cons_append, List.singleton_append,
      decodeFrom_two _ _ _ (by omega) (isSecond_iff.2 (by omega)), same]
    rfl
  split
  · -- three bytes
    have ha := toNat_byte (n := n / 4096 % 16 + 0xE0) (by omega)
    have hb := toNat_byte (n := n / 64 % 64 + 0x80) (by omega)
    have hc := toNat_byte (n := n % 64 + 0x80) (by omega)
    generalize UInt8.ofNat (n / 4096 % 16 + 0xE0) = a at *
    generalize UInt8.ofNat (n / 64 % 64 + 0x80) = b at *
    generalize UInt8.ofNat (n % 64 + 0x80) = c at *
    have same : char3 a b c = char := by
      rw [← self, char3]
      congr 1
      omega
    simp only [List.cons_append, List.nil_append]
    rw [decodeFrom_three _ _ _ (by omega) (isSecond_iff.2 (by omega)) (isTail_iff.2 (by omega)), same]
    rfl
  · -- four bytes
    have ha := toNat_byte (n := n / 262144 % 8 + 0xF0) (by omega)
    have hb := toNat_byte (n := n / 4096 % 64 + 0x80) (by omega)
    have hc := toNat_byte (n := n / 64 % 64 + 0x80) (by omega)
    have hd := toNat_byte (n := n % 64 + 0x80) (by omega)
    generalize UInt8.ofNat (n / 262144 % 8 + 0xF0) = a at *
    generalize UInt8.ofNat (n / 4096 % 64 + 0x80) = b at *
    generalize UInt8.ofNat (n / 64 % 64 + 0x80) = c at *
    generalize UInt8.ofNat (n % 64 + 0x80) = d at *
    have same : char4 a b c d = char := by
      rw [← self, char4]
      congr 1
      omega
    simp only [List.cons_append, List.nil_append]
    rw [decodeFrom_four _ _ _ (by omega) (isSecond_iff.2 (by omega)) (isTail_iff.2 (by omega))
      (isTail_iff.2 (by omega)), same]
    rfl

section Spelling

variable {a b c d : UInt8}

private lemma ofNat_eq {n : Nat} (h : n = a.toNat) : UInt8.ofNat n = a := by rw [h, UInt8.ofNat_toNat]

/-- The bytes of the character with a number, by the size of the number. -/
lemma encodeChar_ofNat {n : Nat} (h : n < 0xD800 ∨ 0xDFFF < n ∧ n < 0x110000) :
    String.utf8EncodeChar (Char.ofNat n) =
      if n ≤ 0x7f then [UInt8.ofNat n]
      else if n ≤ 0x7ff then [UInt8.ofNat (n / 64 % 32 + 0xC0), UInt8.ofNat (n % 64 + 0x80)]
      else if n ≤ 0xffff then
        [UInt8.ofNat (n / 4096 % 16 + 0xE0), UInt8.ofNat (n / 64 % 64 + 0x80), UInt8.ofNat (n % 64 + 0x80)]
      else
        [UInt8.ofNat (n / 262144 % 8 + 0xF0), UInt8.ofNat (n / 4096 % 64 + 0x80),
          UInt8.ofNat (n / 64 % 64 + 0x80), UInt8.ofNat (n % 64 + 0x80)] := by
  rw [String.utf8EncodeChar]
  simp only [show (Char.ofNat n).val.toNat = n from toNat_ofNat h]

lemma encodeChar_one (ha : a.toNat < 0x80) : String.utf8EncodeChar (Char.ofNat a.toNat) = [a] := by
  rw [encodeChar_ofNat (by omega), if_pos (by omega), UInt8.ofNat_toNat]

lemma encodeChar_two (ha : 0xC2 ≤ a.toNat ∧ a.toNat < 0xE0) (hb : isSecond a b = true) :
    String.utf8EncodeChar (char2 a b) = [a, b] := by
  have hb := isSecond_iff.1 hb
  rw [char2, encodeChar_ofNat (by omega), if_neg (by omega), if_pos (by omega), ofNat_eq (a := a) (by omega),
    ofNat_eq (a := b) (by omega)]

lemma encodeChar_three (ha : 0xE0 ≤ a.toNat ∧ a.toNat < 0xF0) (hb : isSecond a b = true) (hc : isTail c = true) :
    String.utf8EncodeChar (char3 a b c) = [a, b, c] := by
  have hb := isSecond_iff.1 hb
  have hc := isTail_iff.1 hc
  rw [char3, encodeChar_ofNat (by omega), if_neg (by omega), if_neg (by omega), if_pos (by omega),
    ofNat_eq (a := a) (by omega), ofNat_eq (a := b) (by omega), ofNat_eq (a := c) (by omega)]

lemma encodeChar_four (ha : 0xF0 ≤ a.toNat ∧ a.toNat ≤ 0xF4) (hb : isSecond a b = true) (hc : isTail c = true)
    (hd : isTail d = true) : String.utf8EncodeChar (char4 a b c d) = [a, b, c, d] := by
  have hb := isSecond_iff.1 hb
  have hc := isTail_iff.1 hc
  have hd := isTail_iff.1 hd
  rw [char4, encodeChar_ofNat (by omega), if_neg (by omega), if_neg (by omega), if_neg (by omega),
    ofNat_eq (a := a) (by omega), ofNat_eq (a := b) (by omega), ofNat_eq (a := c) (by omega),
    ofNat_eq (a := d) (by omega)]

end Spelling

/-! ### Texts -/

/-- Reading the bytes of characters gives the characters. -/
lemma decodeFrom_flatMap (index : Nat) (read chars : List Char) :
    decodeFrom index read (chars.flatMap String.utf8EncodeChar) = .ok (read.reverse ++ chars) := by
  induction chars generalizing index read with
  | nil => simp [decodeFrom]
  | cons char chars ih => rw [List.flatMap_cons, decodeFrom_encodeChar, ih]; simp

/-- Characters that follow a character are spelled behind it. -/
private lemma spelled_cons {char : Char} {read chars : List Char} {bytes rest : Bytes}
    (hchar : String.utf8EncodeChar char = bytes)
    (h : ∃ more, chars = (char :: read).reverse ++ more ∧ rest = more.flatMap String.utf8EncodeChar) :
    ∃ more, chars = read.reverse ++ more ∧ bytes ++ rest = more.flatMap String.utf8EncodeChar := by
  obtain ⟨more, rfl, rfl⟩ := h
  exact ⟨char :: more, by simp, by rw [List.flatMap_cons, hchar]⟩

/-- What is read as characters is spelled as these characters are. -/
lemma eq_flatMap_of_decodeFrom {index : Nat} {read chars : List Char} {bytes : Bytes}
    (h : decodeFrom index read bytes = .ok chars) :
    ∃ more, chars = read.reverse ++ more ∧ bytes = more.flatMap String.utf8EncodeChar := by
  fun_induction decodeFrom index read bytes generalizing chars with
  | case1 =>
    cases h
    exact ⟨[], by simp, rfl⟩
  | case2 index read a rest ha ih =>
    exact spelled_cons (encodeChar_one (UInt8.lt_iff_toNat_lt.1 ha)) (ih h)
  | case6 index read a _ ha b rest hb ha' ih =>
    simp [UInt8.lt_iff_toNat_lt] at ha ha' hb
    exact spelled_cons (encodeChar_two (by omega) hb) (ih h)
  | case9 index read a _ ha b hb ha' c rest hc ha'' ih =>
    simp [UInt8.lt_iff_toNat_lt] at ha ha' ha'' hb hc
    exact spelled_cons (encodeChar_three (by omega) hb hc) (ih h)
  | case12 index read a _ ha b hb ha' c hc ha'' d rest hd ih =>
    simp [UInt8.lt_iff_toNat_lt] at ha ha' ha'' hb hc hd
    exact spelled_cons (encodeChar_four (by omega) hb hc hd) (ih h)
  | _ => cases h

theorem decode_encode (text : String) : decode (encode text) = .ok text := by
  rw [decode, encode, decodeFrom_flatMap]
  simp [Except.map]

/-- **Reading accepts exactly the bytes of texts.** -/
theorem decode_eq_ok_iff {bytes : Bytes} {text : String} : decode bytes = .ok text ↔ bytes = encode text := by
  constructor
  · intro h
    unfold decode at h
    cases hchars : decodeFrom 0 [] bytes with
    | error flaw => rw [hchars] at h; cases h
    | ok chars =>
      rw [hchars] at h
      obtain rfl : String.ofList chars = text := by simpa [Except.map] using h
      obtain ⟨more, rfl, rfl⟩ := eq_flatMap_of_decodeFrom hchars
      simp [encode]
  · rintro rfl
    exact decode_encode text

theorem encode_inj {s t : String} (h : encode s = encode t) : s = t := by
  have hs := decode_encode s
  rw [h, decode_encode t] at hs
  exact (Except.ok.inj hs).symm

end SealedChat.Utf8
