import SealedChat.Decimal.Natural

/-!
# Shortest decimal fractions

A binary fraction of double precision stands for an interval of numbers, those that are rounded to it.
Its shortest decimal form is the one with the fewest figures in the interval, and of several with as
few figures the one nearest to the fraction itself.
-/

namespace SealedChat.Decimal

/-- A positive binary fraction `mantissa * 2 ^ exponent`, together with whether the next one below is
only half as far away as the next one above. -/
structure Binary where
  mantissa : Nat
  exponent : Int
  closeBelow : Bool

/-- A decimal fraction `figures * 10 ^ exponent`. -/
structure Fraction where
  figures : Nat
  exponent : Int
  deriving DecidableEq, Repr

namespace Binary

/-- The fraction that the sixty-three low bits of a double stand for, if it is finite and not zero. -/
def ofBits? (bits : UInt64) : Option Binary :=
  let low : Nat := bits.toNat % 2 ^ 52
  let exponent : Nat := bits.toNat / 2 ^ 52 % 2 ^ 11
  if exponent = 2 ^ 11 - 1 then none
  else if exponent = 0 then if low = 0 then none else some ⟨low, -1074, false⟩
  else some ⟨2 ^ 52 + low, (exponent : Int) - 1075, low == 0 && 1 < exponent⟩

variable (b : Binary)

/-- What a quarter of a unit of the mantissa is multiplied by. -/
def unit : Nat := 2 ^ (b.exponent - 2).toNat

/-- What a quarter of a unit of the mantissa is divided by. -/
def denominator : Nat := 2 ^ (2 - b.exponent).toNat

/-- The fraction, times the denominator. -/
def value : Nat := 4 * b.mantissa * b.unit

/-- The lower end of the interval, times the denominator. -/
def lower : Nat := (4 * b.mantissa - if b.closeBelow then 1 else 2) * b.unit

/-- The upper end of the interval, times the denominator. -/
def upper : Nat := (4 * b.mantissa + 2) * b.unit

/-- Whether `figures * 10 ^ exponent` lies in the interval, whose ends belong to it if the mantissa is
even. -/
def holds (d : Fraction) : Bool :=
  let x := d.figures * 10 ^ d.exponent.toNat * b.denominator
  let scale := 10 ^ (-d.exponent).toNat
  if b.mantissa % 2 = 0 then b.lower * scale ≤ x && x ≤ b.upper * scale
  else b.lower * scale < x && x < b.upper * scale

/-- How far `figures * 10 ^ exponent` is from the fraction, in units that hang on `exponent` only. -/
def distance (d : Fraction) : Nat :=
  let x := d.figures * 10 ^ d.exponent.toNat * b.denominator
  let y := b.value * 10 ^ (-d.exponent).toNat
  (x - y) + (y - x)

/-- The exponent of the least power of ten above the fraction. -/
def magnitude : Int :=
  if b.denominator ≤ b.value then (Decimal.figures (b.value / b.denominator)).length
  else
    let zeros := (List.range 400).find? fun j => b.denominator ≤ b.value * 10 ^ j
    1 - (zeros.getD 0 : Nat)

/-- Of the two neighbours of the fraction with at most `count` figures, the nearest one in the
interval; of two that are equally near, the even one. -/
def withFigures? (count : Nat) : Option Fraction :=
  let exponent := b.magnitude - count
  let below := b.value * 10 ^ (-exponent).toNat / (b.denominator * 10 ^ exponent.toNat)
  let down : Fraction := ⟨below, exponent⟩
  let up : Fraction := ⟨below + 1, exponent⟩
  match b.holds down, b.holds up with
  | true, true =>
    some (if b.distance down < b.distance up ∨ b.distance down = b.distance up ∧ below % 2 = 0
      then down else up)
  | true, false => some down
  | false, true => some up
  | false, false => none

/-- The shortest decimal form. Seventeen figures are always enough. -/
def shortest : Fraction :=
  ((List.range 17).findSome? fun n => b.withFigures? (n + 1)).getD ⟨0, 0⟩

end Binary

/-! ### Text -/

/-- A fraction without the zeros at the end of its figures; `fuel` bounds their number. -/
def Fraction.trim : (fuel : Nat) → Fraction → Fraction
  | 0, d => d
  | fuel + 1, d =>
    if d.figures ≠ 0 ∧ d.figures % 10 = 0 then trim fuel ⟨d.figures / 10, d.exponent + 1⟩ else d

/-- Where figures stop being written out in their places. -/
structure Layout where
  /-- The least exponent of the first figure with which it is. -/
  least : Int
  /-- The greatest exponent of the first figure with which it is. -/
  greatest : Int

/-- The text of a positive fraction. There is a figure on both sides of the point, and an exponent has
a sign. -/
def Layout.text (layout : Layout) (d : Fraction) : String :=
  let d := d.trim 20
  let figures := Decimal.figures d.figures
  let first : Int := d.exponent + figures.length - 1
  let zeros := fun n : Int => List.replicate n.toNat '0'
  String.ofList <|
    if layout.least ≤ first ∧ first ≤ layout.greatest then
      if first < 0 then '0' :: '.' :: zeros (-first - 1) ++ figures
      else
        let whole := (figures ++ zeros d.exponent).take (first.toNat + 1)
        let part := figures.drop (first.toNat + 1)
        whole ++ '.' :: (if part.isEmpty then ['0'] else part)
    else
      let sign := if first < 0 then '-' else '+'
      let rest := figures.drop 1
      figures.take 1 ++ (if rest.isEmpty then [] else '.' :: rest) ++
        'e' :: sign :: Decimal.figures first.natAbs

/-- The text of a double: sign, and the shortest form or zero. -/
def Layout.double (layout : Layout) (x : Float) : String :=
  let sign := if 2 ^ 63 ≤ x.toBits.toNat then "-" else ""
  match Binary.ofBits? x.toBits with
  | some b => sign ++ layout.text b.shortest
  | none => sign ++ "0.0"

end SealedChat.Decimal
