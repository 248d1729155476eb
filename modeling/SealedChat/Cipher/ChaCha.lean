import SealedChat.Words.Basic
import SealedChat.Words.Square

/-!
# ChaCha20

A key, a counter and a nonce fill a square of 32-bit words, ten double rounds mix it, and the sum of
the square before and after is a block of 64 bytes of key stream. Without the sum, two of the mixed
rows are a key of their own: this is how a long nonce is spent.
-/

namespace SealedChat.ChaCha

open Words

/-! ### Rounds -/

/-- A 32-bit word turned left by `n` places. -/
@[inline] def turnLeft (n : UInt32) (x : UInt32) : UInt32 := turnRight32 (32 - n) x

/-- Mixes each column. -/
@[inline] def columns (m : Square UInt32) : Square UInt32 :=
  (m.pass (· + ·) (turnLeft 16) (turnLeft 12)).pass (· + ·) (turnLeft 8) (turnLeft 7)

/-- Mixes the columns, then the diagonals. -/
def doubleRound (m : Square UInt32) : Square UInt32 := (columns (columns m).skew).unskew

/-- The given number of double rounds. -/
def rounds : Nat → Square UInt32 → Square UInt32
  | 0, m => m
  | n + 1, m => rounds n (doubleRound m)

/-! ### Blocks -/

/-- The square of a key and sixteen bytes of counter and nonce. -/
def start (key : Key) (tail : Bytes) : Square UInt32 :=
  Square.ofList 0 <|
    [0x61707865, 0x3320646E, 0x79622D32, 0x6B206574] ++ ofBytes32 key.bytes ++ ofBytes32 tail

/-- A block of key stream, by its number and a nonce of twelve bytes. -/
def block (key : Key) (nonce : Bytes) (number : Nat) : Bytes :=
  let m := start key (LittleEndian.encode 4 number ++ nonce)
  toBytes32 ((rounds 10 m).zip (· + ·) m).toList

@[simp] theorem length_block (key : Key) (nonce : Bytes) (number : Nat) :
    (block key nonce number).length = 64 := by simp [block]

/-- The key stream from block 1 on, long enough for `size` bytes. -/
def keystream (key : Key) (nonce : Bytes) (size : Nat) : Bytes :=
  (List.range ((size + 63) / 64)).flatMap fun i => block key nonce (i + 1)

theorem le_length_keystream (key : Key) (nonce : Bytes) (size : Nat) :
    size ≤ (keystream key nonce size).length := by
  have (n : Nat) : ((List.range n).flatMap fun i => block key nonce (i + 1)).length = 64 * n := by
    simp [List.length_flatMap, List.map_const', Nat.mul_comm]
  rw [keystream, this]
  omega

/-- The key that a key and a nonce of sixteen bytes make. -/
def subkey (key : Key) (nonce : Bytes) : Key :=
  let m := rounds 10 (start key nonce)
  ⟨toBytes32 (m.r0.toList ++ m.r3.toList), by simp [Quad.toList]⟩

end SealedChat.ChaCha
