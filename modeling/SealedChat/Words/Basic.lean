import SealedChat.Bytes.LittleEndian

/-!
# Words

Byte strings as sequences of little-endian words, and rotations of words.
-/

namespace SealedChat.Words

/-! ### Byte strings as words -/

/-- A byte string as 32-bit words; a last word of fewer than four bytes has zeros on top. -/
def ofBytes32 (bytes : Bytes) : List UInt32 := (bytes.blocks 4).map LittleEndian.toUInt32

/-- A byte string as 64-bit words; a last word of fewer than eight bytes has zeros on top. -/
def ofBytes64 (bytes : Bytes) : List UInt64 := (bytes.blocks 8).map LittleEndian.toUInt64

/-- The bytes of 32-bit words. -/
def toBytes32 (words : List UInt32) : Bytes := words.flatMap LittleEndian.ofUInt32

/-- The bytes of 64-bit words. -/
def toBytes64 (words : List UInt64) : Bytes := words.flatMap LittleEndian.ofUInt64

@[simp] theorem length_toBytes32 (words : List UInt32) : (toBytes32 words).length = 4 * words.length := by
  induction words with
  | nil => rfl
  | cons w words ih => simp_all [toBytes32]; omega

@[simp] theorem length_toBytes64 (words : List UInt64) : (toBytes64 words).length = 8 * words.length := by
  induction words with
  | nil => rfl
  | cons w words ih => simp_all [toBytes64]; omega

/-! ### Rotations -/

/-- A 32-bit word turned right by `n` places, `0 < n < 32`. -/
@[inline] def turnRight32 (n : UInt32) (x : UInt32) : UInt32 := (x >>> n) ||| (x <<< (32 - n))

/-- A 64-bit word turned right by `n` places, `0 < n < 64`. -/
@[inline] def turnRight64 (n : UInt64) (x : UInt64) : UInt64 := (x >>> n) ||| (x <<< (64 - n))

end SealedChat.Words
