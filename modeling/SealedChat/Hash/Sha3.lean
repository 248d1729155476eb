import SealedChat.Words.Basic

/-!
# SHA3-512

A sponge of 25 words of 64 bits. Blocks of 72 bytes are added to the first nine words, and after
each block 24 rounds permute the whole. The digest is what then stands in the first eight words.
-/

namespace SealedChat.Sha3

open Words

/-- The words of the sponge: the word in column `x` and row `y` has number `x + 5 * y`. -/
abbrev State := Array UInt64

/-- Bytes that a block brings in. -/
def rate : Nat := 72

/-- Turns a word left by `n` places, taken modulo 64. -/
def turnLeft (n : Nat) (x : UInt64) : UInt64 :=
  if n % 64 = 0 then x else turnRight64 (UInt64.ofNat (64 - n % 64)) x

/-- The state whose word in column `x` and row `y` is `f x y`. -/
def build (f : Nat → Nat → UInt64) : State := (Array.range 25).map fun i => f (i % 5) (i / 5)

/-- The word in column `x` and row `y`, both taken modulo five. -/
def word (s : State) (x y : Nat) : UInt64 := s.getD (x % 5 + 5 * (y % 5)) 0

/-! ### The steps of a round -/

/-- Adds to each word the sums of the column before and, turned by one, the column behind. -/
def sumColumns (s : State) : State :=
  let sums := (Array.range 5).map fun x => (List.range 5).foldl (fun sum y => sum ^^^ word s x y) 0
  let sum := fun x => sums.getD (x % 5) 0
  build fun x y => word s x y ^^^ sum (x + 4) ^^^ turnLeft 1 (sum (x + 1))

/-- How far each word is turned. -/
def turns : Array Nat :=
  #[0, 1, 62, 28, 27, 36, 44, 6, 55, 20, 3, 10, 43, 25, 39, 41, 45, 15, 21, 8, 18, 2, 61, 56, 14]

/-- Turns every word and moves the word in column `x` and row `y` to column `y`. -/
def turnAndMove (s : State) : State :=
  build fun x y =>
    let column := x + 3 * y
    turnLeft (turns.getD (column % 5 + 5 * x) 0) (word s column x)

/-- Adds to each word what the next two words of its row choose. -/
def chooseRows (s : State) : State :=
  build fun x y => word s x y ^^^ (~~~(word s (x + 1) y) &&& word s (x + 2) y)

/-- The words that tell the rounds apart. -/
def constants : List UInt64 :=
  [0x0000000000000001, 0x0000000000008082, 0x800000000000808A, 0x8000000080008000,
   0x000000000000808B, 0x0000000080000001, 0x8000000080008081, 0x8000000000008009,
   0x000000000000008A, 0x0000000000000088, 0x0000000080008009, 0x000000008000000A,
   0x000000008000808B, 0x800000000000008B, 0x8000000000008089, 0x8000000000008003,
   0x8000000000008002, 0x8000000000000080, 0x000000000000800A, 0x800000008000000A,
   0x8000000080008081, 0x8000000000008080, 0x0000000080000001, 0x8000000080008008]

/-- One round. -/
def round (s : State) (constant : UInt64) : State :=
  (chooseRows (turnAndMove (sumColumns s))).modify 0 (· ^^^ constant)

/-- All rounds. -/
def permute (s : State) : State := constants.foldl round s

/-! ### The sponge -/

/-- Adds a block to the first words and permutes. -/
def absorb (s : State) (block : Bytes) : State :=
  let words := (ofBytes64 block).toArray
  permute (build fun x y => word s x y ^^^ words.getD (x + 5 * y) 0)

/-- A message with what fills its last block: the mark of the hash, zeros and a one bit at the end. -/
def fill (message : Bytes) : Bytes :=
  let free := rate - message.length % rate
  message ++ if free = 1 then [0x86] else 0x06 :: List.replicate (free - 2) 0 ++ [0x80]

/-- The digest of a message, 64 bytes. -/
def hash (message : Bytes) : Bytes :=
  let s := ((fill message).blocks rate).foldl absorb (Array.replicate 25 0)
  toBytes64 ((List.range 8).map fun x => s.getD x 0)

theorem length_hash (message : Bytes) : (hash message).length = 64 := by simp [hash]

end SealedChat.Sha3
