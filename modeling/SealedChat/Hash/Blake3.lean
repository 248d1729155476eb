import SealedChat.Words.Basic
import SealedChat.Words.Square

/-!
# BLAKE3

A message is cut into chunks of 1024 bytes, each chunk into blocks of 64. Compressing the blocks of
a chunk one after the other gives the chunk's chaining value; chaining values are joined in pairs
along a binary tree whose left branches are full. The digest is the first half of the compression at
the root.
-/

namespace SealedChat.Blake3

open Words

/-- Eight words that stand for all that was hashed so far. -/
abbrev Chaining := List UInt32

/-- The starting words, which are also those of the first half of SHA-256. -/
def initial : Chaining :=
  [0x6A09E667, 0xBB67AE85, 0x3C6EF372, 0xA54FF53A, 0x510E527F, 0x9B05688C, 0x1F83D9AB, 0x5BE0CD19]

/-! ### Compression -/

/-- The order in which the next round reads the words of a block. -/
@[inline] def permute (m : Square UInt32) : Square UInt32 :=
  ⟨⟨m.r0.c, m.r1.c, m.r0.d, m.r2.c⟩, ⟨m.r1.d, m.r0.a, m.r1.a, m.r3.b⟩,
   ⟨m.r0.b, m.r2.d, m.r3.a, m.r1.b⟩, ⟨m.r2.b, m.r3.c, m.r3.d, m.r2.a⟩⟩

/-- Mixes each column with two words of the block. -/
@[inline] def columns (x y : Quad UInt32) (v : Square UInt32) : Square UInt32 :=
  let v := (v.feed (· + ·) x).pass (· + ·) (turnRight32 16) (turnRight32 12)
  (v.feed (· + ·) y).pass (· + ·) (turnRight32 8) (turnRight32 7)

/-- Mixes the columns with the first half of the block, then the diagonals with the second. -/
def round (m v : Square UInt32) : Square UInt32 :=
  let v := columns ⟨m.r0.a, m.r0.c, m.r1.a, m.r1.c⟩ ⟨m.r0.b, m.r0.d, m.r1.b, m.r1.d⟩ v
  (columns ⟨m.r2.a, m.r2.c, m.r3.a, m.r3.c⟩ ⟨m.r2.b, m.r2.d, m.r3.b, m.r3.d⟩ v.skew).unskew

/-- The given number of rounds. -/
def rounds : Nat → Square UInt32 → Square UInt32 → Square UInt32
  | 0, _, v => v
  | n + 1, m, v => rounds n (permute m) (round m v)

/-- What the flags of a compression say about its block. -/
structure Flags where
  chunkStart : Bool := false
  chunkEnd : Bool := false
  parent : Bool := false
  root : Bool := false

/-- The flags as bits of a word. -/
def Flags.toWord (f : Flags) : UInt32 :=
  (if f.chunkStart then 1 else 0) ||| (if f.chunkEnd then 2 else 0) |||
  (if f.parent then 4 else 0) ||| (if f.root then 8 else 0)

/-- Compresses a block of `length` bytes, at most 64, that belongs to chunk number `counter`. -/
def compress (chaining : Chaining) (block : Square UInt32) (counter : UInt64) (length : Nat)
    (flags : Flags) : Chaining :=
  let words := (chaining ++ initial.take 4 ++
    [counter.toUInt32, (counter >>> 32).toUInt32, UInt32.ofNat length, flags.toWord])
  let v := rounds 7 block (Square.ofList 0 words)
  (v.r0.zip (· ^^^ ·) v.r2).toList ++ (v.r1.zip (· ^^^ ·) v.r3).toList

@[simp] theorem length_compress (chaining : Chaining) (block : Square UInt32) (counter : UInt64)
    (length : Nat) (flags : Flags) : (compress chaining block counter length flags).length = 8 := rfl

/-! ### Chunks and the tree above them -/

/-- A block, with zeros behind it, as words. -/
def blockWords (block : Bytes) : Square UInt32 := Square.ofList 0 (ofBytes32 block)

/-- Compresses the blocks that remain of a chunk. -/
def chunkFrom (counter : UInt64) (root start : Bool) (chaining : Chaining) : List Bytes → Chaining
  | [] => compress chaining (blockWords []) counter 0 ⟨start, true, false, root⟩
  | [block] => compress chaining (blockWords block) counter block.length ⟨start, true, false, root⟩
  | block :: rest =>
    let chaining := compress chaining (blockWords block) counter block.length ⟨start, false, false, false⟩
    chunkFrom counter root false chaining rest

/-- The chaining value of a chunk; `root` says that the chunk is the whole message. -/
def chunk (counter : Nat) (root : Bool) (bytes : Bytes) : Chaining :=
  chunkFrom (UInt64.ofNat counter) root true initial (bytes.blocks 64)

/-- The chaining value above two others. -/
def parent (root : Bool) (left right : Chaining) : Chaining :=
  compress initial (Square.ofList 0 (left ++ right)) 0 64 ⟨false, false, true, root⟩

/-- How many of `count` chunks, at least two, the left branch takes: the greatest power of two that
leaves something for the right. -/
def leftCount (count : Nat) : Nat := 2 ^ Nat.log2 (count - 1)

/-- The tree over `count` chunks from number `first` on. The fuel bounds the height of the tree and
may be the number of chunks. -/
def tree (chunks : Array Bytes) (root : Bool) : (fuel first count : Nat) → Chaining
  | 0, first, _ => chunk first root (chunks.getD first [])
  | fuel + 1, first, count =>
    if count ≤ 1 then chunk first root (chunks.getD first [])
    else
      let left := leftCount count
      parent root (tree chunks false fuel first left) (tree chunks false fuel (first + left) (count - left))

theorem length_chunkFrom (counter : UInt64) (root start : Bool) (chaining : Chaining) (blocks : List Bytes) :
    (chunkFrom counter root start chaining blocks).length = 8 := by
  fun_induction chunkFrom counter root start chaining blocks with
  | case1 => rfl
  | case2 => rfl
  | case3 _ _ _ _ _ _ ih => exact ih

theorem length_tree (chunks : Array Bytes) (root : Bool) (fuel first count : Nat) :
    (tree chunks root fuel first count).length = 8 := by
  cases fuel with
  | zero => exact length_chunkFrom _ _ _ _ _
  | succ fuel =>
    rw [tree]
    split
    · exact length_chunkFrom _ _ _ _ _
    · rfl

/-- The digest of a message. -/
def hash (message : Bytes) : Key :=
  let chunks := (message.blocks 1024).toArray
  ⟨toBytes32 (tree chunks true chunks.size 0 chunks.size), by simp [length_tree]⟩

end SealedChat.Blake3
