import SealedChat.Words.Basic
import SealedChat.Words.Square

/-!
# Memory blocks of Argon2

A block of 1024 bytes is a table of eight rows of sixteen 64-bit words. Mixing two blocks adds them,
permutes each row, then each column of word pairs, and adds the sum once more.
-/

namespace SealedChat.Argon2

open Words

/-! ### Rows -/

/-- Sixteen words. -/
structure Row where
  w0 : UInt64
  w1 : UInt64
  w2 : UInt64
  w3 : UInt64
  w4 : UInt64
  w5 : UInt64
  w6 : UInt64
  w7 : UInt64
  w8 : UInt64
  w9 : UInt64
  w10 : UInt64
  w11 : UInt64
  w12 : UInt64
  w13 : UInt64
  w14 : UInt64
  w15 : UInt64

namespace Row

/-- A row as a square of words. -/
@[inline] def toSquare (r : Row) : Square UInt64 :=
  ⟨⟨r.w0, r.w1, r.w2, r.w3⟩, ⟨r.w4, r.w5, r.w6, r.w7⟩,
   ⟨r.w8, r.w9, r.w10, r.w11⟩, ⟨r.w12, r.w13, r.w14, r.w15⟩⟩

/-- A square of words as a row. -/
@[inline] def ofSquare (m : Square UInt64) : Row :=
  ⟨m.r0.a, m.r0.b, m.r0.c, m.r0.d, m.r1.a, m.r1.b, m.r1.c, m.r1.d,
   m.r2.a, m.r2.b, m.r2.c, m.r2.d, m.r3.a, m.r3.b, m.r3.c, m.r3.d⟩

/-- A row of zeros. -/
def zero : Row := ⟨0, 0, 0, 0, 0, 0, 0, 0, 0, 0, 0, 0, 0, 0, 0, 0⟩

/-- Word by word exclusive or. -/
def xor (x y : Row) : Row := ofSquare (x.toSquare.zip (· ^^^ ·) y.toSquare)

/-- Addition with twice the product of the low halves. -/
@[inline] def join (x y : UInt64) : UInt64 := x + y + 2 * (x &&& 0xFFFFFFFF) * (y &&& 0xFFFFFFFF)

/-- Mixes each column. -/
@[inline] def columns (m : Square UInt64) : Square UInt64 :=
  (m.pass join (turnRight64 32) (turnRight64 24)).pass join (turnRight64 16) (turnRight64 63)

/-- Mixes the columns, then the diagonals. -/
def permute (r : Row) : Row := ofSquare (columns (columns r.toSquare).skew).unskew

end Row

/-! ### Blocks -/

/-- Eight rows. -/
structure Block where
  r0 : Row
  r1 : Row
  r2 : Row
  r3 : Row
  r4 : Row
  r5 : Row
  r6 : Row
  r7 : Row

namespace Block

/-- A block of zeros. -/
def zero : Block :=
  ⟨Row.zero, Row.zero, Row.zero, Row.zero, Row.zero, Row.zero, Row.zero, Row.zero⟩

instance : Inhabited Block := ⟨zero⟩

/-- Word by word exclusive or. -/
def xor (x y : Block) : Block :=
  ⟨x.r0.xor y.r0, x.r1.xor y.r1, x.r2.xor y.r2, x.r3.xor y.r3,
   x.r4.xor y.r4, x.r5.xor y.r5, x.r6.xor y.r6, x.r7.xor y.r7⟩

/-- Each row permuted. -/
def permuteRows (x : Block) : Block :=
  ⟨x.r0.permute, x.r1.permute, x.r2.permute, x.r3.permute,
   x.r4.permute, x.r5.permute, x.r6.permute, x.r7.permute⟩

/-- The table of word pairs turned over its diagonal: row `i` holds pair `i` of every row. -/
def transpose (b : Block) : Block :=
  ⟨⟨b.r0.w0, b.r0.w1, b.r1.w0, b.r1.w1, b.r2.w0, b.r2.w1, b.r3.w0, b.r3.w1,
    b.r4.w0, b.r4.w1, b.r5.w0, b.r5.w1, b.r6.w0, b.r6.w1, b.r7.w0, b.r7.w1⟩,
   ⟨b.r0.w2, b.r0.w3, b.r1.w2, b.r1.w3, b.r2.w2, b.r2.w3, b.r3.w2, b.r3.w3,
    b.r4.w2, b.r4.w3, b.r5.w2, b.r5.w3, b.r6.w2, b.r6.w3, b.r7.w2, b.r7.w3⟩,
   ⟨b.r0.w4, b.r0.w5, b.r1.w4, b.r1.w5, b.r2.w4, b.r2.w5, b.r3.w4, b.r3.w5,
    b.r4.w4, b.r4.w5, b.r5.w4, b.r5.w5, b.r6.w4, b.r6.w5, b.r7.w4, b.r7.w5⟩,
   ⟨b.r0.w6, b.r0.w7, b.r1.w6, b.r1.w7, b.r2.w6, b.r2.w7, b.r3.w6, b.r3.w7,
    b.r4.w6, b.r4.w7, b.r5.w6, b.r5.w7, b.r6.w6, b.r6.w7, b.r7.w6, b.r7.w7⟩,
   ⟨b.r0.w8, b.r0.w9, b.r1.w8, b.r1.w9, b.r2.w8, b.r2.w9, b.r3.w8, b.r3.w9,
    b.r4.w8, b.r4.w9, b.r5.w8, b.r5.w9, b.r6.w8, b.r6.w9, b.r7.w8, b.r7.w9⟩,
   ⟨b.r0.w10, b.r0.w11, b.r1.w10, b.r1.w11, b.r2.w10, b.r2.w11, b.r3.w10, b.r3.w11,
    b.r4.w10, b.r4.w11, b.r5.w10, b.r5.w11, b.r6.w10, b.r6.w11, b.r7.w10, b.r7.w11⟩,
   ⟨b.r0.w12, b.r0.w13, b.r1.w12, b.r1.w13, b.r2.w12, b.r2.w13, b.r3.w12, b.r3.w13,
    b.r4.w12, b.r4.w13, b.r5.w12, b.r5.w13, b.r6.w12, b.r6.w13, b.r7.w12, b.r7.w13⟩,
   ⟨b.r0.w14, b.r0.w15, b.r1.w14, b.r1.w15, b.r2.w14, b.r2.w15, b.r3.w14, b.r3.w15,
    b.r4.w14, b.r4.w15, b.r5.w14, b.r5.w15, b.r6.w14, b.r6.w15, b.r7.w14, b.r7.w15⟩⟩

/-- Mixes two blocks. -/
def mix (x y : Block) : Block :=
  let sum := x.xor y
  sum.permuteRows.transpose.permuteRows.transpose.xor sum

/-! ### Words of a block -/

/-- The words of a block, row by row. -/
def toWords (b : Block) : List UInt64 :=
  [b.r0, b.r1, b.r2, b.r3, b.r4, b.r5, b.r6, b.r7].flatMap fun r => r.toSquare.toList

/-- The block of the first 128 words of a list, with zeros for those it lacks. -/
def ofWords (words : List UInt64) : Block :=
  let words := words.toArray
  let row := fun i => Row.ofSquare (Square.ofFn fun j => words.getD (16 * i + j) 0)
  ⟨row 0, row 1, row 2, row 3, row 4, row 5, row 6, row 7⟩

/-- The block that 1024 bytes spell. -/
def ofBytes (bytes : Bytes) : Block := ofWords (ofBytes64 bytes)

/-- The 1024 bytes of a block. -/
def toBytes (b : Block) : Bytes := toBytes64 b.toWords

end Block

end SealedChat.Argon2
