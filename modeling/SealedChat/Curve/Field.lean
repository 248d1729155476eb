import SealedChat.Bytes.LittleEndian

/-!
# The field of integers modulo `2 ^ 255 - 19`

Powers, inverses and roots. Adding and multiplying are those of bounded numbers.
-/

namespace SealedChat.Curve

/-- The order of the field. -/
def fieldOrder : Nat := 2 ^ 255 - 19

-- The zero is that of the core library's bounded numbers, whatever else a module imports.
instance : @NeZero Nat Zero.ofOfNat0 fieldOrder := ⟨Nat.ne_of_gt (Nat.le_of_ble_eq_true rfl)⟩

/-- An element of the field. -/
abbrev Element := Fin fieldOrder

namespace Element

/-- The element that a number stands for. -/
def ofNat (n : Nat) : Element := Fin.ofNat fieldOrder n

/-- The binary digits of a number below `2 ^ width`, the most significant first. -/
def bits (width n : Nat) : List Bool := (List.range width).reverse.map n.testBit

/-- A power with an exponent below `2 ^ 255`. -/
def pow (x : Element) (n : Nat) : Element :=
  (bits 255 n).foldl (fun y bit => if bit then y * y * x else y * y) 1

/-- The inverse of an element other than zero; zero for zero. -/
def inverse (x : Element) : Element := pow x (fieldOrder - 2)

/-- A root of minus one. -/
def rootOfMinusOne : Element := pow 2 ((fieldOrder - 1) / 4)

/-- The even one of the two numbers whose square is `u / v`, if there are any. -/
def rootOfRatio? (u v : Element) : Option Element :=
  let x := u * v * v * v * pow (u * v * v * v * v * v * v * v) ((fieldOrder - 5) / 8)
  let even := fun x : Element => if x.val % 2 = 0 then x else -x
  if v * x * x = u then some (even x)
  else if v * x * x = -u then some (even (x * rootOfMinusOne))
  else none

end Element

end SealedChat.Curve
