import SealedChat.Json.Fault

/-!
# Numbers in JSON

A number of figures only is an integer as long as it fits 64 bits. All others are real numbers of
double precision: their first figures are collected, as many as fit 64 bits, and the result is
multiplied or divided by a power of ten. This is not always the nearest double; it is shown in
faults and nowhere used.
-/

namespace SealedChat.Json

/-- A number that has been read. -/
inductive Number where
  | natural (value : UInt64)
  /-- An integer below zero. -/
  | negative (value : Int64)
  | real (value : Float)

/-- A number as a value that stands in the wrong place. -/
def Number.found : Number → Found
  | .natural value => .integer value.toNat
  | .negative value => .integer value.toInt
  | .real value => .real value

/-! ### Real numbers -/

/-- The greatest number of 64 bits. -/
def greatestNatural : Nat := 2 ^ 64 - 1

/-- The greatest exponent that is counted. -/
def greatestExponent : Nat := 2 ^ 31 - 1

/-- A power of ten as a double. -/
def powerOfTen (n : Nat) : Float := Float.ofScientific 1 false n

/-- A double divided by `10 ^ n`, in steps of `10 ^ 308`; `fuel` bounds the steps. -/
def divide : (fuel : Nat) → Float → Nat → Float
  | 0, x, _ => x
  | fuel + 1, x, n =>
    if n ≤ 308 then x / powerOfTen n
    else if x == 0 then x
    else divide fuel (x / powerOfTen 308) (n - 308)

/-- The real number `significand * 10 ^ exponent` with a sign. -/
def realOfParts (positive : Bool) (significand : Nat) (exponent : Int) : Except Fault Number :=
  let sign := fun x : Float => if positive then x else -x
  let x := (UInt64.ofNat significand).toFloat
  if exponent < 0 then .ok (.real (sign (divide 8 x exponent.natAbs)))
  else if exponent ≤ 308 then
    let y := x * powerOfTen exponent.toNat
    if y.isInf then .error .numberOutOfRange else .ok (.real (sign y))
  else if x == 0 then .ok (.real (sign x))
  else .error .numberOutOfRange

/-- Collects figures behind a significand as long as it fits 64 bits: the significand, how many figures
it took in, and the text from the first figure that did not fit or from the first other character. -/
def collect (significand taken : Nat) : List Char → Nat × Nat × List Char
  | [] => (significand, taken, [])
  | c :: rest =>
    if Decimal.isFigure c then
      let next := 10 * significand + (c.toNat - 48)
      if next ≤ greatestNatural then collect next (taken + 1) rest else (significand, taken, c :: rest)
    else (significand, taken, c :: rest)

/-- Whether a text goes on with a figure. -/
def startsWithFigure : List Char → Bool
  | [] => false
  | c :: _ => Decimal.isFigure c

/-- A text without the figures at its front. -/
def skipFigures (text : List Char) : List Char := text.dropWhile Decimal.isFigure

/-- Reads the figures of an exponent behind its sign and ends the number. An exponent that is too great
makes a number out of range, or zero. -/
def readExponentFigures (positive : Bool) (significand : Nat) (start : Int) (up : Bool) :
    Reader Number := fun text =>
  match text with
  | [] => .error .endInValue
  | c :: _ =>
    if !Decimal.isFigure c then .error .invalidNumber
    else
      let figures := text.takeWhile Decimal.isFigure
      let rest := skipFigures text
      let value := Decimal.value figures
      if greatestExponent < value then
        if significand ≠ 0 ∧ up then .error .numberOutOfRange
        else .ok (.real (if positive then 0 else -0), rest)
      else
        let bounded := fun n : Int => max (-(greatestExponent : Int) - 1) (min greatestExponent n)
        let exponent := bounded (if up then start + value else start - value)
        (realOfParts positive significand exponent).map (·, rest)

/-- Reads an exponent behind its letter and ends the number. -/
def readExponent (positive : Bool) (significand : Nat) (start : Int) : Reader Number
  | '+' :: rest => readExponentFigures positive significand start true rest
  | '-' :: rest => readExponentFigures positive significand start false rest
  | rest => readExponentFigures positive significand start true rest

/-- Ends a number, of which nothing but an exponent may be left. -/
def endReal (positive : Bool) (significand : Nat) (exponent : Int) : Reader Number
  | 'e' :: rest => readExponent positive significand exponent rest
  | 'E' :: rest => readExponent positive significand exponent rest
  | rest => (realOfParts positive significand exponent).map (·, rest)

/-- Reads the figures behind the point and ends the number. Figures that no longer fit are ignored. -/
def readFraction (positive : Bool) (significand : Nat) (exponent : Int) : Reader Number := fun text =>
  let (significand, taken, rest) := collect significand 0 text
  if startsWithFigure rest then endReal positive significand (exponent - taken) (skipFigures rest)
  else if taken = 0 then .error (if rest.isEmpty then .endInValue else .invalidNumber)
  else endReal positive significand (exponent - taken) rest

/-! ### Numbers -/

/-- Ends a number whose figures before the point fit 64 bits. -/
def endInteger (positive : Bool) (significand : Nat) : Reader Number
  | '.' :: rest => readFraction positive significand 0 rest
  | 'e' :: rest => readExponent positive significand 0 rest
  | 'E' :: rest => readExponent positive significand 0 rest
  | rest =>
    if positive then .ok (.natural (UInt64.ofNat significand), rest)
    else if 0 < significand ∧ significand ≤ 2 ^ 63 then
      .ok (.negative (Int64.ofInt (-(significand : Int))), rest)
    else .ok (.real (-(UInt64.ofNat significand).toFloat), rest)

/-- Ends a number whose figures before the point do not fit 64 bits: each one left is a factor of ten. -/
def endLongInteger (positive : Bool) (significand : Nat) : Reader Number := fun text =>
  let exponent := (text.takeWhile Decimal.isFigure).length
  match skipFigures text with
  | '.' :: rest => readFraction positive significand exponent rest
  | rest => endReal positive significand exponent rest

/-- Reads a number behind its sign. A zero at the front stands alone. -/
def readNumber (positive : Bool) : Reader Number
  | [] => .error .endInValue
  | '0' :: rest => if startsWithFigure rest then .error .invalidNumber else endInteger positive 0 rest
  | c :: rest =>
    if !Decimal.isFigure c then .error .invalidNumber
    else
      let (significand, _, rest) := collect (c.toNat - 48) 0 rest
      if startsWithFigure rest then endLongInteger positive significand rest
      else endInteger positive significand rest

/-! ### Skipping -/

/-- Skips the figures of an exponent. -/
def skipExponentFigures (text : List Char) : Except Fault (List Char) :=
  if startsWithFigure text then .ok (skipFigures text) else .error .invalidNumber

/-- Skips an exponent, if there is one. -/
def skipExponent : List Char → Except Fault (List Char)
  | 'e' :: '+' :: rest => skipExponentFigures rest
  | 'e' :: '-' :: rest => skipExponentFigures rest
  | 'E' :: '+' :: rest => skipExponentFigures rest
  | 'E' :: '-' :: rest => skipExponentFigures rest
  | 'e' :: rest => skipExponentFigures rest
  | 'E' :: rest => skipExponentFigures rest
  | rest => .ok rest

/-- Skips a fraction and an exponent, if there are any. -/
def skipFraction : List Char → Except Fault (List Char)
  | '.' :: rest => if startsWithFigure rest then skipExponent (skipFigures rest) else .error .invalidNumber
  | rest => skipExponent rest

/-- Skips a number behind its sign. -/
def skipNumber : List Char → Except Fault (List Char)
  | [] => .error .invalidNumber
  | '0' :: rest => if startsWithFigure rest then .error .invalidNumber else skipFraction rest
  | c :: rest =>
    if Decimal.isFigure c then skipFraction (skipFigures rest) else .error .invalidNumber

end SealedChat.Json
