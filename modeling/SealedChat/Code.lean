import SealedChat.Bytes.Base64Url
import SealedChat.Bytes.LittleEndian
import SealedChat.Decimal.Natural
import SealedChat.Entropy

/-!
# Chat codes

Participants of a chat agree on a code beforehand. A full code spells 64 random bytes; a numeric code
has six figures, which are easy to read aloud and easy to guess.
-/

namespace SealedChat.Code

/-- Bytes behind a full code. -/
def secretSize : Nat := 64

/-- Figures of a numeric code. -/
def numericLength : Nat := 6

/-- Whether a code is numeric: six figures. -/
def isNumeric (code : String) : Bool :=
  code.toList.length == numericLength && code.toList.all Decimal.isFigure

/-! ### New codes -/

/-- A new full code. -/
def generateFull (entropy : Entropy) : String × Entropy :=
  (Base64Url.encode (entropy.peek secretSize), entropy.skip secretSize)

/-- How many numeric codes may be generated, the least of which is `numericLeast`. -/
def numericCount : Nat := 900000

/-- The least numeric code that is generated. -/
def numericLeast : Nat := 100000

/-- The numeric code that a random word picks. The words are spread evenly over the codes; the last of
each code's share are refused, so that all shares are equal. -/
def numericOfWord? (word : UInt32) : Option Nat :=
  let product := word.toNat * numericCount
  if product % 2 ^ 32 ≤ 3686399999 then some (numericLeast + product / 2 ^ 32) else none

/-- A new numeric code, from the first of the next `tries` random words that is not refused. -/
def generateNumeric : (tries : Nat) → Entropy → Option (String × Entropy)
  | 0, _ => none
  | tries + 1, entropy =>
    let rest := entropy.skip 4
    let drawn := (numericOfWord? (LittleEndian.toUInt32 (entropy.peek 4))).map fun n => (Decimal.ofNat n, rest)
    drawn <|> generateNumeric tries rest

end SealedChat.Code
