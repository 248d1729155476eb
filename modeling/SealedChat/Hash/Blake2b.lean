import SealedChat.Words.Basic
import SealedChat.Words.Square

/-!
# BLAKE2b

A message is cut into blocks of 128 bytes; each is mixed into eight 64-bit words together with the
count of bytes read so far. The digest has any length from 1 to 64 bytes, and the length takes part
in the hash.
-/

namespace SealedChat.Blake2b

open Words

/-- Eight words that stand for all that was hashed so far. -/
abbrev Chaining := List UInt64

/-- The starting words, which are also those of SHA-512. -/
def initial : Chaining :=
  [0x6A09E667F3BCC908, 0xBB67AE8584CAA73B, 0x3C6EF372FE94F82B, 0xA54FF53A5F1D36F1,
   0x510E527FADE682D1, 0x9B05688C2B3E6C1F, 0x1F83D9ABFB41BD6B, 0x5BE0CD19137E2179]

/-- The order in which each round reads the words of a block. -/
def schedule : List (Square Nat) :=
  [⟨⟨0, 2, 4, 6⟩, ⟨1, 3, 5, 7⟩, ⟨8, 10, 12, 14⟩, ⟨9, 11, 13, 15⟩⟩,
   ⟨⟨14, 4, 9, 13⟩, ⟨10, 8, 15, 6⟩, ⟨1, 0, 11, 5⟩, ⟨12, 2, 7, 3⟩⟩,
   ⟨⟨11, 12, 5, 15⟩, ⟨8, 0, 2, 13⟩, ⟨10, 3, 7, 9⟩, ⟨14, 6, 1, 4⟩⟩,
   ⟨⟨7, 3, 13, 11⟩, ⟨9, 1, 12, 14⟩, ⟨2, 5, 4, 15⟩, ⟨6, 10, 0, 8⟩⟩,
   ⟨⟨9, 5, 2, 10⟩, ⟨0, 7, 4, 15⟩, ⟨14, 11, 6, 3⟩, ⟨1, 12, 8, 13⟩⟩,
   ⟨⟨2, 6, 0, 8⟩, ⟨12, 10, 11, 3⟩, ⟨4, 7, 15, 1⟩, ⟨13, 5, 14, 9⟩⟩,
   ⟨⟨12, 1, 14, 4⟩, ⟨5, 15, 13, 10⟩, ⟨0, 6, 9, 8⟩, ⟨7, 3, 2, 11⟩⟩,
   ⟨⟨13, 7, 12, 3⟩, ⟨11, 14, 1, 9⟩, ⟨5, 15, 8, 2⟩, ⟨0, 4, 6, 10⟩⟩,
   ⟨⟨6, 14, 11, 0⟩, ⟨15, 9, 3, 8⟩, ⟨12, 13, 1, 10⟩, ⟨2, 7, 4, 5⟩⟩,
   ⟨⟨10, 8, 7, 1⟩, ⟨2, 4, 6, 5⟩, ⟨15, 9, 3, 13⟩, ⟨11, 14, 12, 0⟩⟩,
   ⟨⟨0, 2, 4, 6⟩, ⟨1, 3, 5, 7⟩, ⟨8, 10, 12, 14⟩, ⟨9, 11, 13, 15⟩⟩,
   ⟨⟨14, 4, 9, 13⟩, ⟨10, 8, 15, 6⟩, ⟨1, 0, 11, 5⟩, ⟨12, 2, 7, 3⟩⟩]

/-! ### Compression -/

/-- Mixes each column with two words of the block. -/
@[inline] def columns (x y : Quad UInt64) (v : Square UInt64) : Square UInt64 :=
  let v := (v.feed (· + ·) x).pass (· + ·) (turnRight64 32) (turnRight64 24)
  (v.feed (· + ·) y).pass (· + ·) (turnRight64 16) (turnRight64 63)

/-- The words of a block at the places of a row. -/
def pick (block : Array UInt64) (places : Quad Nat) : Quad UInt64 :=
  ⟨block.getD places.a 0, block.getD places.b 0, block.getD places.c 0, block.getD places.d 0⟩

/-- One round, which reads the words of the block in the given order. -/
def round (block : Array UInt64) (v : Square UInt64) (order : Square Nat) : Square UInt64 :=
  let v := columns (pick block order.r0) (pick block order.r1) v
  (columns (pick block order.r2) (pick block order.r3) v.skew).unskew

/-- Mixes in a block, after which `count` bytes have been read; `last` marks the last block. -/
def compress (chaining : Chaining) (block : Bytes) (count : Nat) (last : Bool) : Chaining :=
  let tweak : List UInt64 := [UInt64.ofNat count, 0, if last then 0xFFFFFFFFFFFFFFFF else 0, 0]
  let words := chaining ++ initial.take 4 ++ List.zipWith (· ^^^ ·) (initial.drop 4) tweak
  let block := (ofBytes64 (block.padTo 128)).toArray
  let v := schedule.foldl (round block) (Square.ofList 0 words)
  List.zipWith (· ^^^ ·) chaining ((v.r0.zip (· ^^^ ·) v.r2).toList ++ (v.r1.zip (· ^^^ ·) v.r3).toList)

/-- Mixes in the blocks that remain, of which `count` bytes have been read before. -/
def absorb (chaining : Chaining) (count : Nat) : List Bytes → Chaining
  | [] => compress chaining [] count true
  | [block] => compress chaining block (count + block.length) true
  | block :: rest => absorb (compress chaining block (count + block.length) false) (count + block.length) rest

/-! ### Digest -/

/-- The chaining value before the first block of a hash without key whose digest has `size` bytes. -/
def start (size : Nat) : Chaining :=
  List.zipWith (· ^^^ ·) initial [0x01010000 ^^^ UInt64.ofNat size, 0, 0, 0, 0, 0, 0, 0]

/-- The digest of a message, `size` bytes long, at most 64. -/
def hash (size : Nat) (message : Bytes) : Bytes :=
  (toBytes64 (absorb (start size) 0 (message.blocks 128))).take size

private theorem length_compress {chaining : Chaining} (h : chaining.length = 8) (block : Bytes) (count : Nat)
    (last : Bool) : (compress chaining block count last).length = 8 := by
  simp [compress, h, Quad.toList]

private theorem length_absorb {chaining : Chaining} (h : chaining.length = 8) (count : Nat) (blocks : List Bytes) :
    (absorb chaining count blocks).length = 8 := by
  fun_induction absorb chaining count blocks with
  | case1 => exact length_compress h _ _ _
  | case2 => exact length_compress h _ _ _
  | case3 _ _ _ _ _ ih => exact ih (length_compress h _ _ _)

theorem length_hash {size : Nat} (h : size ≤ 64) (message : Bytes) : (hash size message).length = size := by
  have hstart : (start size).length = 8 := by simp [start, initial]
  have := length_absorb hstart 0 (message.blocks 128)
  simp [hash, this, h]

end SealedChat.Blake2b
