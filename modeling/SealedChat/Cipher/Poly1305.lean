import SealedChat.Bytes.LittleEndian

/-!
# Poly1305

A message is read as the coefficients of a polynomial over the integers modulo `2 ^ 130 - 5`. Its
value at a point that the key hides, masked by the rest of the key, is the tag. A key serves for one
message.
-/

namespace SealedChat.Poly1305

open LittleEndian

/-- The modulus. -/
def modulus : Nat := 2 ^ 130 - 5

/-- The point that sixteen bytes of key hide: 22 of their bits are not used. -/
def point (bytes : Bytes) : Nat := decode bytes &&& 0x0FFFFFFC0FFFFFFC0FFFFFFC0FFFFFFF

/-- A block as a coefficient: a one follows its last byte. -/
def coefficient (block : Bytes) : Nat := decode (block ++ [1])

/-- The value at `r` of the polynomial of a message, whose last coefficient stands for `r` itself. -/
def value (r : Nat) (message : Bytes) : Nat :=
  (message.blocks 16).foldl (fun sum block => (sum + coefficient block) * r % modulus) 0

/-- The tag of a message under a key of 32 bytes. -/
def tag (key message : Bytes) : Bytes :=
  encode 16 (value (point (key.take 16)) message + decode (key.drop 16))

@[simp] theorem length_tag (key message : Bytes) : (tag key message).length = 16 :=
  length_encode 16 _

end SealedChat.Poly1305
