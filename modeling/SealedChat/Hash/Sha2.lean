import SealedChat.Bytes.LittleEndian

/-!
# SHA-256 and SHA-512

One scheme over words of 32 or of 64 bits. A message is filled up to whole blocks of sixteen words,
its length in bits last; each block is expanded to as many words as there are rounds, and the rounds
mix them into eight words. Words are written with the most significant byte first.
-/

namespace SealedChat.Sha2

/-- Three rotations whose results are added without carry. -/
structure Turns where
  first : Nat
  second : Nat
  third : Nat

/-- What tells one hash of the family from the other. -/
structure Family where
  /-- Bits of a word. -/
  width : Nat
  /-- The words before the first block: square roots of the first primes, behind the point. -/
  initial : List (BitVec width)
  /-- A word for each round: cube roots of the first primes, behind the point. -/
  constants : List (BitVec width)
  /-- The rotations of `a` in a round. -/
  roundA : Turns
  /-- The rotations of `e` in a round. -/
  roundE : Turns
  /-- The rotations of the word fifteen places back; the third is a shift. -/
  expandFar : Turns
  /-- The rotations of the word two places back; the third is a shift. -/
  expandNear : Turns

namespace Family

variable (f : Family)

/-- Bytes of a word. -/
def wordBytes : Nat := f.width / 8

/-- Bytes of a block. -/
def blockBytes : Nat := 16 * f.wordBytes

end Family

/-! ### Rounds -/

/-- The eight words that are mixed. -/
structure State (w : Nat) where
  a : BitVec w
  b : BitVec w
  c : BitVec w
  d : BitVec w
  e : BitVec w
  f : BitVec w
  g : BitVec w
  h : BitVec w

namespace State

variable {w : Nat}

/-- The words in order. -/
def toList (s : State w) : List (BitVec w) := [s.a, s.b, s.c, s.d, s.e, s.f, s.g, s.h]

/-- The state of the first eight words of a list. -/
def ofList (words : List (BitVec w)) : State w :=
  let word := fun i => words.getD i 0
  ⟨word 0, word 1, word 2, word 3, word 4, word 5, word 6, word 7⟩

/-- Word by word addition. -/
def add (s t : State w) : State w :=
  ⟨s.a + t.a, s.b + t.b, s.c + t.c, s.d + t.d, s.e + t.e, s.f + t.f, s.g + t.g, s.h + t.h⟩

end State

/-- Three rotations of a word, added without carry. -/
def Turns.rotate {w : Nat} (t : Turns) (x : BitVec w) : BitVec w :=
  x.rotateRight t.first ^^^ x.rotateRight t.second ^^^ x.rotateRight t.third

/-- Two rotations and a shift of a word, added without carry. -/
def Turns.shift {w : Nat} (t : Turns) (x : BitVec w) : BitVec w :=
  x.rotateRight t.first ^^^ x.rotateRight t.second ^^^ (x >>> t.third)

/-- One round, with a word of the message and a constant. -/
def round (f : Family) (s : State f.width) (word constant : BitVec f.width) : State f.width :=
  let choice := (s.e &&& s.f) ^^^ (~~~s.e &&& s.g)
  let majority := (s.a &&& s.b) ^^^ (s.a &&& s.c) ^^^ (s.b &&& s.c)
  let x := s.h + f.roundE.rotate s.e + choice + constant + word
  let y := f.roundA.rotate s.a + majority
  ⟨x + y, s.a, s.b, s.c, s.d + x, s.e, s.f, s.g⟩

/-! ### Blocks -/

/-- The number that a byte string spells, most significant byte first. -/
def bigEndian (bytes : Bytes) : Nat := LittleEndian.decode bytes.reverse

/-- The words of a block. -/
def blockWords (f : Family) (block : Bytes) : List (BitVec f.width) :=
  (block.blocks f.wordBytes).map fun bytes => BitVec.ofNat f.width (bigEndian bytes)

/-- The words of a block, and `n` more made from them. -/
def expand (f : Family) : (n : Nat) → Array (BitVec f.width) → Array (BitVec f.width)
  | 0, words => words
  | n + 1, words =>
    let back := fun k => words.getD (words.size - k) 0
    expand f n (words.push (f.expandNear.shift (back 2) + back 7 + f.expandFar.shift (back 15) + back 16))

/-- Mixes in a block. -/
def compress (f : Family) (s : State f.width) (block : Bytes) : State f.width :=
  let words := expand f (f.constants.length - 16) (blockWords f block).toArray
  s.add ((words.toList.zip f.constants).foldl (fun t (word, constant) => round f t word constant) s)

/-- A message with what fills its last block: a one bit, zeros and the length in bits. -/
def fill (f : Family) (message : Bytes) : Bytes :=
  let tail := 2 * f.wordBytes
  let zeros := (2 * f.blockBytes - (message.length + 1 + tail) % f.blockBytes) % f.blockBytes
  message ++ 0x80 :: List.replicate zeros 0 ++ (LittleEndian.encode tail (8 * message.length)).reverse

/-- The digest of a message: all eight words. -/
def hash (f : Family) (message : Bytes) : Bytes :=
  let s := ((fill f message).blocks f.blockBytes).foldl (compress f) (State.ofList f.initial)
  s.toList.flatMap fun word => (LittleEndian.encode f.wordBytes word.toNat).reverse

theorem length_hash (f : Family) (message : Bytes) : (hash f message).length = 8 * f.wordBytes := by
  simp [hash, State.toList]; omega

/-! ### The two hashes -/

/-- Words of 32 bits. -/
def Family.sha256 : Family where
  width := 32
  initial :=
    [0x6A09E667, 0xBB67AE85, 0x3C6EF372, 0xA54FF53A, 0x510E527F, 0x9B05688C, 0x1F83D9AB, 0x5BE0CD19]
  constants :=
    [0x428A2F98, 0x71374491, 0xB5C0FBCF, 0xE9B5DBA5, 0x3956C25B, 0x59F111F1, 0x923F82A4, 0xAB1C5ED5,
     0xD807AA98, 0x12835B01, 0x243185BE, 0x550C7DC3, 0x72BE5D74, 0x80DEB1FE, 0x9BDC06A7, 0xC19BF174,
     0xE49B69C1, 0xEFBE4786, 0x0FC19DC6, 0x240CA1CC, 0x2DE92C6F, 0x4A7484AA, 0x5CB0A9DC, 0x76F988DA,
     0x983E5152, 0xA831C66D, 0xB00327C8, 0xBF597FC7, 0xC6E00BF3, 0xD5A79147, 0x06CA6351, 0x14292967,
     0x27B70A85, 0x2E1B2138, 0x4D2C6DFC, 0x53380D13, 0x650A7354, 0x766A0ABB, 0x81C2C92E, 0x92722C85,
     0xA2BFE8A1, 0xA81A664B, 0xC24B8B70, 0xC76C51A3, 0xD192E819, 0xD6990624, 0xF40E3585, 0x106AA070,
     0x19A4C116, 0x1E376C08, 0x2748774C, 0x34B0BCB5, 0x391C0CB3, 0x4ED8AA4A, 0x5B9CCA4F, 0x682E6FF3,
     0x748F82EE, 0x78A5636F, 0x84C87814, 0x8CC70208, 0x90BEFFFA, 0xA4506CEB, 0xBEF9A3F7, 0xC67178F2]
  roundA := ⟨2, 13, 22⟩
  roundE := ⟨6, 11, 25⟩
  expandFar := ⟨7, 18, 3⟩
  expandNear := ⟨17, 19, 10⟩

/-- Words of 64 bits. -/
def Family.sha512 : Family where
  width := 64
  initial :=
    [0x6A09E667F3BCC908, 0xBB67AE8584CAA73B, 0x3C6EF372FE94F82B, 0xA54FF53A5F1D36F1,
     0x510E527FADE682D1, 0x9B05688C2B3E6C1F, 0x1F83D9ABFB41BD6B, 0x5BE0CD19137E2179]
  constants :=
    [0x428A2F98D728AE22, 0x7137449123EF65CD, 0xB5C0FBCFEC4D3B2F, 0xE9B5DBA58189DBBC,
     0x3956C25BF348B538, 0x59F111F1B605D019, 0x923F82A4AF194F9B, 0xAB1C5ED5DA6D8118,
     0xD807AA98A3030242, 0x12835B0145706FBE, 0x243185BE4EE4B28C, 0x550C7DC3D5FFB4E2,
     0x72BE5D74F27B896F, 0x80DEB1FE3B1696B1, 0x9BDC06A725C71235, 0xC19BF174CF692694,
     0xE49B69C19EF14AD2, 0xEFBE4786384F25E3, 0x0FC19DC68B8CD5B5, 0x240CA1CC77AC9C65,
     0x2DE92C6F592B0275, 0x4A7484AA6EA6E483, 0x5CB0A9DCBD41FBD4, 0x76F988DA831153B5,
     0x983E5152EE66DFAB, 0xA831C66D2DB43210, 0xB00327C898FB213F, 0xBF597FC7BEEF0EE4,
     0xC6E00BF33DA88FC2, 0xD5A79147930AA725, 0x06CA6351E003826F, 0x142929670A0E6E70,
     0x27B70A8546D22FFC, 0x2E1B21385C26C926, 0x4D2C6DFC5AC42AED, 0x53380D139D95B3DF,
     0x650A73548BAF63DE, 0x766A0ABB3C77B2A8, 0x81C2C92E47EDAEE6, 0x92722C851482353B,
     0xA2BFE8A14CF10364, 0xA81A664BBC423001, 0xC24B8B70D0F89791, 0xC76C51A30654BE30,
     0xD192E819D6EF5218, 0xD69906245565A910, 0xF40E35855771202A, 0x106AA07032BBD1B8,
     0x19A4C116B8D2D0C8, 0x1E376C085141AB53, 0x2748774CDF8EEB99, 0x34B0BCB5E19B48A8,
     0x391C0CB3C5C95A63, 0x4ED8AA4AE3418ACB, 0x5B9CCA4F7763E373, 0x682E6FF3D6B2B8A3,
     0x748F82EE5DEFB2FC, 0x78A5636F43172F60, 0x84C87814A1F0AB72, 0x8CC702081A6439EC,
     0x90BEFFFA23631E28, 0xA4506CEBDE82BDE9, 0xBEF9A3F7B2C67915, 0xC67178F2E372532B,
     0xCA273ECEEA26619C, 0xD186B8C721C0C207, 0xEADA7DD6CDE0EB1E, 0xF57D4F7FEE6ED178,
     0x06F067AA72176FBA, 0x0A637DC5A2C898A6, 0x113F9804BEF90DAE, 0x1B710B35131C471B,
     0x28DB77F523047D84, 0x32CAAB7B40C72493, 0x3C9EBE0A15C9BEBC, 0x431D67C49C100D4C,
     0x4CC5D4BECB3E42B6, 0x597F299CFC657E2A, 0x5FCB6FAB3AD6FAEC, 0x6C44198C4A475817]
  roundA := ⟨28, 34, 39⟩
  roundE := ⟨14, 18, 41⟩
  expandFar := ⟨1, 8, 7⟩
  expandNear := ⟨19, 61, 6⟩

end SealedChat.Sha2

namespace SealedChat

/-- The SHA-256 digest of a message. -/
def sha256 (message : Bytes) : Key := ⟨Sha2.hash .sha256 message, Sha2.length_hash _ _⟩

/-- The SHA-512 digest of a message, 64 bytes. -/
def sha512 (message : Bytes) : Bytes := Sha2.hash .sha512 message

end SealedChat
