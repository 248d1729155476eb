import SealedChat.Curve.Field

/-!
# Points of the twisted Edwards curve

The curve is `-x² + y² = 1 + d x² y²` over the field of integers modulo `2 ^ 255 - 19`. A point is
written as 32 bytes: `y` and, in the highest bit, whether `x` is odd.
-/

namespace SealedChat.Curve

/-- The constant of the curve, `-121665 / 121666`. -/
def curveConstant : Element := -121665 * Element.inverse 121666

/-- A point `(x / z, y / z)`, with `t = x y / z` beside it. -/
structure Point where
  x : Element
  y : Element
  z : Element
  t : Element

namespace Point

/-- The point with the given coordinates. -/
def ofCoordinates (x y : Element) : Point := ⟨x, y, 1, x * y⟩

/-- The neutral point. -/
def zero : Point := ofCoordinates 0 1

/-- The sum of two points, equal or not. -/
def add (p q : Point) : Point :=
  let a := (p.y - p.x) * (q.y - q.x)
  let b := (p.y + p.x) * (q.y + q.x)
  let c := 2 * curveConstant * p.t * q.t
  let d := 2 * p.z * q.z
  ⟨(b - a) * (d - c), (d + c) * (b + a), (d - c) * (d + c), (b - a) * (b + a)⟩

/-- The opposite point. -/
def neg (p : Point) : Point := ⟨-p.x, p.y, p.z, -p.t⟩

/-- A multiple, by a number below `2 ^ 256`. -/
def multiple (n : Nat) (p : Point) : Point :=
  (Element.bits 256 n).foldl (fun q bit => if bit then (q.add q).add p else q.add q) zero

/-! ### Points as bytes -/

/-- The 32 bytes of a point. -/
def encode (p : Point) : Key :=
  let scale := Element.inverse p.z
  let x := p.x * scale
  let y := p.y * scale
  ⟨LittleEndian.encode 32 (y.val + x.val % 2 * 2 ^ 255), LittleEndian.length_encode _ _⟩

/-- The point that 32 bytes spell. A number `y` beyond the field is taken modulo its order, and an odd
zero for `x` is zero. -/
def decode? (bytes : Key) : Option Point := do
  let n := LittleEndian.decode bytes.bytes
  let y := Element.ofNat (n % 2 ^ 255)
  let x ← Element.rootOfRatio? (y * y - 1) (curveConstant * y * y + 1)
  return ofCoordinates (if n.testBit 255 then -x else x) y

end Point

/-! ### The base point -/

/-- The order of the base point. -/
def groupOrder : Nat := 2 ^ 252 + 27742317777372353535851937790883648493

/-- The base point: `y` is `4 / 5` and `x` is even. -/
def basePoint : Point :=
  .ofCoordinates
    (.ofNat 0x216936D3CD6E53FEC0A4E231FDD6DC5C692CC7609525A7B2C9562D608F25D51A)
    (.ofNat 0x6666666666666666666666666666666666666666666666666666666666666658)

end SealedChat.Curve
