/-!
# Squares of words

Sixteen words in four rows of four, and the two passes that mix them: one works on the four columns
side by side, the other on the four diagonals. Ciphers and hashes that only add, rotate and
exclusive-or words differ in the words, the rotations and the way in which two words are joined.
-/

namespace SealedChat

/-- Four words in a row. -/
structure Quad (α : Type) where
  a : α
  b : α
  c : α
  d : α

namespace Quad

variable {α : Type}

/-- Word by word combination of two rows. -/
@[inline] def zip (f : α → α → α) (x y : Quad α) : Quad α :=
  ⟨f x.a y.a, f x.b y.b, f x.c y.c, f x.d y.d⟩

/-- The row turned left by one place. -/
@[inline] def left1 (x : Quad α) : Quad α := ⟨x.b, x.c, x.d, x.a⟩

/-- The row turned left by two places. -/
@[inline] def left2 (x : Quad α) : Quad α := ⟨x.c, x.d, x.a, x.b⟩

/-- The row turned left by three places. -/
@[inline] def left3 (x : Quad α) : Quad α := ⟨x.d, x.a, x.b, x.c⟩

/-- The words of the row, in order. -/
def toList (x : Quad α) : List α := [x.a, x.b, x.c, x.d]

end Quad

/-- Sixteen words in four rows. -/
structure Square (α : Type) where
  r0 : Quad α
  r1 : Quad α
  r2 : Quad α
  r3 : Quad α

namespace Square

variable {α : Type}

/-- The square whose words, row by row, are `word 0` to `word 15`. -/
@[inline] def ofFn (word : Nat → α) : Square α :=
  ⟨⟨word 0, word 1, word 2, word 3⟩, ⟨word 4, word 5, word 6, word 7⟩,
   ⟨word 8, word 9, word 10, word 11⟩, ⟨word 12, word 13, word 14, word 15⟩⟩

/-- The square of the first sixteen words of a list, with a filler for those it lacks. -/
def ofList (filler : α) (words : List α) : Square α :=
  let words := words.toArray
  ofFn fun i => words.getD i filler

/-- The words of the square, row by row. -/
def toList (m : Square α) : List α := m.r0.toList ++ m.r1.toList ++ m.r2.toList ++ m.r3.toList

@[simp] theorem length_toList (m : Square α) : m.toList.length = 16 := rfl

/-- Word by word combination of two squares. -/
@[inline] def zip (f : α → α → α) (x y : Square α) : Square α :=
  ⟨x.r0.zip f y.r0, x.r1.zip f y.r1, x.r2.zip f y.r2, x.r3.zip f y.r3⟩

/-! ### Mixing -/

/-- Half of a mixing step on each column `a b c d`, top to bottom: `a` takes in `b`, `d` takes in `a`
and is turned, `c` takes in `d`, and `b` takes in `c` and is turned. -/
@[inline] def pass [XorOp α] (join : α → α → α) (turnD turnB : α → α) (m : Square α) : Square α :=
  let a := m.r0.zip join m.r1
  let d := m.r3.zip (fun x y => turnD (x ^^^ y)) a
  let c := m.r2.zip join d
  let b := m.r1.zip (fun x y => turnB (x ^^^ y)) c
  ⟨a, b, c, d⟩

/-- Each row turned left by its number, so that the diagonals become columns. -/
@[inline] def skew (m : Square α) : Square α := ⟨m.r0, m.r1.left1, m.r2.left2, m.r3.left3⟩

/-- Each row turned right by its number, so that the columns become diagonals. -/
@[inline] def unskew (m : Square α) : Square α := ⟨m.r0, m.r1.left3, m.r2.left2, m.r3.left1⟩

/-- The first row with a row of further words joined in. -/
@[inline] def feed (join : α → α → α) (words : Quad α) (m : Square α) : Square α :=
  ⟨m.r0.zip join words, m.r1, m.r2, m.r3⟩

end Square

end SealedChat
