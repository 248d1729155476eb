import SealedChat.Bytes.Basic

/-!
# Little-endian numbers

A number below `256 ^ width` is written as `width` bytes, the least significant first. Writing and
reading invert each other: `decode_encode` and `encode_decode`.
-/

namespace SealedChat.LittleEndian

/-- The `width` low bytes of a number, least significant first. -/
def encode : (width : Nat) → Nat → Bytes
  | 0, _ => []
  | width + 1, n => UInt8.ofNat n :: encode width (n / 256)

/-- The number that a byte string spells, least significant byte first. -/
def decode : Bytes → Nat
  | [] => 0
  | b :: rest => b.toNat + 256 * decode rest

@[simp] theorem length_encode (width n : Nat) : (encode width n).length = width := by
  induction width generalizing n with
  | zero => rfl
  | succ width ih => simp [encode, ih]

theorem decode_lt (bytes : Bytes) : decode bytes < 256 ^ bytes.length := by
  induction bytes with
  | nil => simp [decode]
  | cons b bytes ih =>
    have := b.toNat_lt
    simp only [decode, List.length_cons, Nat.pow_succ]
    omega

theorem decode_encode (width n : Nat) : decode (encode width n) = n % 256 ^ width := by
  induction width generalizing n with
  | zero => simp [encode, decode, Nat.mod_one]
  | succ width ih =>
    simp [encode, decode, ih, Nat.pow_succ', Nat.mod_mul]

theorem decode_encode_of_lt {width n : Nat} (h : n < 256 ^ width) : decode (encode width n) = n := by
  rw [decode_encode, Nat.mod_eq_of_lt h]

theorem encode_decode (bytes : Bytes) : encode bytes.length (decode bytes) = bytes := by
  induction bytes with
  | nil => rfl
  | cons b bytes ih =>
    have hb := b.toNat_lt
    have hd : (b.toNat + 256 * decode bytes) / 256 = decode bytes := by omega
    have hm : UInt8.ofNat (b.toNat + 256 * decode bytes) = b := by
      apply UInt8.toNat_inj.1
      simp
    simp [encode, decode, hd, hm, ih]

theorem encode_decode_of_length {width : Nat} {bytes : Bytes} (h : bytes.length = width) :
    encode width (decode bytes) = bytes := h ▸ encode_decode bytes

theorem encode_inj {width m n : Nat} (hm : m < 256 ^ width) (hn : n < 256 ^ width)
    (h : encode width m = encode width n) : m = n := by
  rw [← decode_encode_of_lt hm, h, decode_encode_of_lt hn]

/-! ### Words -/

/-- A 32-bit word as four bytes. -/
def ofUInt32 (x : UInt32) : Bytes := encode 4 x.toNat

/-- A 64-bit word as eight bytes. -/
def ofUInt64 (x : UInt64) : Bytes := encode 8 x.toNat

/-- A signed 64-bit word as the eight bytes of its two's complement. -/
def ofInt64 (x : Int64) : Bytes := ofUInt64 x.toUInt64

/-- The word that four bytes spell. -/
def toUInt32 (bytes : Bytes) : UInt32 := UInt32.ofNat (decode bytes)

/-- The word that eight bytes spell. -/
def toUInt64 (bytes : Bytes) : UInt64 := UInt64.ofNat (decode bytes)

/-- The signed word whose two's complement eight bytes spell. -/
def toInt64 (bytes : Bytes) : Int64 := (toUInt64 bytes).toInt64

@[simp] theorem length_ofUInt32 (x : UInt32) : (ofUInt32 x).length = 4 := length_encode 4 _

@[simp] theorem length_ofUInt64 (x : UInt64) : (ofUInt64 x).length = 8 := length_encode 8 _

@[simp] theorem length_ofInt64 (x : Int64) : (ofInt64 x).length = 8 := length_encode 8 _

@[simp] theorem toUInt32_ofUInt32 (x : UInt32) : toUInt32 (ofUInt32 x) = x := by
  rw [toUInt32, ofUInt32, decode_encode_of_lt (by simpa using x.toNat_lt), UInt32.ofNat_toNat]

@[simp] theorem toUInt64_ofUInt64 (x : UInt64) : toUInt64 (ofUInt64 x) = x := by
  rw [toUInt64, ofUInt64, decode_encode_of_lt (by simpa using x.toNat_lt), UInt64.ofNat_toNat]

@[simp] theorem toInt64_ofInt64 (x : Int64) : toInt64 (ofInt64 x) = x := by
  simp [toInt64, ofInt64]

theorem ofUInt32_toUInt32 {bytes : Bytes} (h : bytes.length = 4) : ofUInt32 (toUInt32 bytes) = bytes := by
  have := decode_lt bytes
  rw [ofUInt32, toUInt32, UInt32.toNat_ofNat_of_lt' (by simpa [h, UInt32.size] using this),
    encode_decode_of_length h]

theorem ofUInt64_toUInt64 {bytes : Bytes} (h : bytes.length = 8) : ofUInt64 (toUInt64 bytes) = bytes := by
  have := decode_lt bytes
  rw [ofUInt64, toUInt64, UInt64.toNat_ofNat_of_lt' (by simpa [h, UInt64.size] using this),
    encode_decode_of_length h]

theorem ofInt64_toInt64 {bytes : Bytes} (h : bytes.length = 8) : ofInt64 (toInt64 bytes) = bytes := by
  simp [ofInt64, toInt64, ofUInt64_toUInt64 h]

theorem ofUInt64_inj {x y : UInt64} (h : ofUInt64 x = ofUInt64 y) : x = y := by
  simpa using congrArg toUInt64 h

end SealedChat.LittleEndian
