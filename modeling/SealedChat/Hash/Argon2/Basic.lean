import SealedChat.Hash.Argon2.Block
import SealedChat.Hash.Blake2b

/-!
# Argon2id

A hash that is made costly by filling a memory of lanes of blocks several times over. Each block is
mixed from the one before it in its lane and one that a pseudorandom word picks. In the first half
of the first pass the words come from a counter; later they are read from the block before, so that
they depend on the secret.
-/

namespace SealedChat.Argon2

open LittleEndian

/-- What a hash costs and how long it is. -/
structure Cost where
  /-- How many times the memory is filled. -/
  passes : Nat
  /-- The memory, in blocks of 1024 bytes. -/
  blocks : Nat
  /-- The number of lanes. -/
  lanes : Nat
  /-- The length of the hash in bytes. -/
  size : Nat
  deriving DecidableEq, Repr

namespace Cost

/-- Blocks in one of the four segments of a lane. -/
def segment (cost : Cost) : Nat := cost.blocks / (4 * cost.lanes)

/-- Blocks in a lane. -/
def lane (cost : Cost) : Nat := 4 * cost.segment

/-- Blocks that are in use, a multiple of four for each lane. -/
def used (cost : Cost) : Nat := cost.lanes * cost.lane

end Cost

/-! ### Hashes of any length -/

/-- The first halves of a chain of `n` digests, each of the digest before it, and behind them one more
digest, whole and `last` bytes long. -/
def links (last : Nat) : Nat → Bytes → Bytes
  | 0, digest => Blake2b.hash last digest
  | n + 1, digest =>
    let digest := Blake2b.hash 64 digest
    digest.take 32 ++ links last n digest

/-- A hash of `size` bytes. -/
def longHash (size : Nat) (message : Bytes) : Bytes :=
  let message := encode 4 size ++ message
  if size ≤ 64 then Blake2b.hash size message
  else
    let halves := (size + 31) / 32 - 2
    links (size - 32 * halves) halves message

/-! ### Picking blocks -/

/-- A segment of the memory that is being filled. -/
structure Place where
  pass : Nat
  slice : Nat
  lane : Nat

namespace Place

/-- Whether the pseudorandom words of the segment come from a counter. -/
def counted (place : Place) : Bool := place.pass == 0 && place.slice < 2

/-- How many blocks may be picked for block `index` of the segment. Those of other lanes are the
finished segments of the last pass; of its own lane also the blocks of this segment but the last.
Where the segment starts, the last block of another lane is left out too. -/
def candidates (cost : Cost) (place : Place) (index : Nat) (own : Bool) : Nat :=
  let finished := (if place.pass == 0 then place.slice else 3) * cost.segment
  if own then finished + index - 1
  else if index == 0 then finished - 1
  else finished

/-- The column of the first block that may be picked. -/
def oldest (cost : Cost) (place : Place) : Nat :=
  if place.pass == 0 || place.slice == 3 then 0 else (place.slice + 1) * cost.segment

/-- Where in the memory the block lies that a pseudorandom word picks for block `index`. Late blocks
are picked more often than early ones. -/
def pick (cost : Cost) (place : Place) (index : Nat) (word : UInt64) : Nat :=
  let lane :=
    if place.pass == 0 && place.slice == 0 then place.lane
    else (word >>> 32).toNat % cost.lanes
  let size := place.candidates cost index (lane == place.lane)
  let x := (word &&& 0xFFFFFFFF).toNat
  let back := size * (x * x / 2 ^ 32) / 2 ^ 32
  lane * cost.lane + (place.oldest cost + (size - 1 - back)) % cost.lane

end Place

/-! ### Filling -/

/-- The words that pick blocks number `128 * group` to `128 * group + 127` of a segment. -/
def countedWords (cost : Cost) (place : Place) (group : Nat) : Array UInt64 :=
  let number := fun n : Nat => UInt64.ofNat n
  let input := Block.ofWords
    [number place.pass, number place.lane, number place.slice, number cost.used, number cost.passes,
     2, number (group + 1)]
  (Block.zero.mix (Block.zero.mix input)).toWords.toArray

/-- Fills block `index` of a segment; `word` gives its pseudorandom word from the block before. After
the first pass the old block is added. -/
@[inline] def fillBlock (cost : Cost) (place : Place) (word : Block → UInt64) (memory : Array Block)
    (index : Nat) : Array Block :=
  let column := place.slice * cost.segment + index
  let base := place.lane * cost.lane
  let previous := memory.getD (base + (if column = 0 then cost.lane - 1 else column - 1)) .zero
  let block := previous.mix (memory.getD (place.pick cost index (word previous)) .zero)
  let block := if place.pass = 0 then block else block.xor (memory.getD (base + column) .zero)
  memory.setIfInBounds (base + column) block

/-- Fills a segment. The first two blocks of a lane are there from the start. -/
def fillSegment (cost : Cost) (memory : Array Block) (place : Place) : Array Block :=
  if place.counted then
    (List.range ((cost.segment + 127) / 128)).foldl (fun memory group =>
      let words := countedWords cost place group
      let first := if group = 0 ∧ place.slice = 0 then 2 else 128 * group
      let stop := min cost.segment (128 * group + 128)
      (List.range' first (stop - first)).foldl (fun memory index =>
        fillBlock cost place (fun _ => words.getD (index % 128) 0) memory index) memory) memory
  else
    (List.range cost.segment).foldl (fillBlock cost place fun previous => previous.r0.w0) memory

/-- All segments in the order in which they are filled. -/
def places (cost : Cost) : List Place :=
  (List.range cost.passes).flatMap fun pass => (List.range 4).flatMap fun slice =>
    (List.range cost.lanes).map fun lane => ⟨pass, slice, lane⟩

/-! ### The hash -/

/-- The digest of all that goes into the hash. -/
def seed (cost : Cost) (secret salt : Bytes) : Bytes :=
  Blake2b.hash 64 <|
    encode 4 cost.lanes ++ encode 4 cost.size ++ encode 4 cost.blocks ++ encode 4 cost.passes ++
    encode 4 0x13 ++ encode 4 2 ++ encode 4 secret.length ++ secret ++
    encode 4 salt.length ++ salt ++ encode 4 0 ++ encode 4 0

/-- The memory before the first pass: two blocks of each lane come from the seed. -/
def initialMemory (cost : Cost) (seed : Bytes) : Array Block :=
  (List.range cost.lanes).foldl (fun memory lane =>
    let block := fun column => Block.ofBytes (longHash 1024 (seed ++ encode 4 column ++ encode 4 lane))
    (memory.setIfInBounds (lane * cost.lane) (block 0)).setIfInBounds (lane * cost.lane + 1) (block 1))
    (Array.replicate cost.used Block.zero)

/-- The last blocks of all lanes, added up. -/
def lastColumn (cost : Cost) (memory : Array Block) : Block :=
  (List.range cost.lanes).foldl (fun sum lane => sum.xor (memory.getD (lane * cost.lane + cost.lane - 1) .zero)) Block.zero

/-- The hash of a secret with a salt. -/
def hash (cost : Cost) (secret salt : Bytes) : Bytes :=
  let memory := (places cost).foldl (fillSegment cost) (initialMemory cost (seed cost secret salt))
  longHash cost.size (lastColumn cost memory).toBytes

theorem length_hash {cost : Cost} (h : cost.size ≤ 64) (secret salt : Bytes) :
    (hash cost secret salt).length = cost.size := by
  simp [hash, longHash, h, Blake2b.length_hash]

end SealedChat.Argon2
