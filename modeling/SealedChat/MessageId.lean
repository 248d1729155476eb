import SealedChat.Bytes.Hex
import SealedChat.Entropy

/-!
# Message ids

The id of a message is a universally unique identifier made from sixteen random bytes: a number that
is drawn with its least significant byte first and written with the most significant first. Its text
has five groups of hexadecimal figures.
-/

namespace SealedChat.MessageId

/-- Random bytes of an id. -/
def size : Nat := 16

/-- Sixteen bytes, six bits of which say that all others are random. -/
def mark (bytes : Bytes) : Bytes :=
  (bytes.modify 6 fun b => (b &&& 0x0F) ||| 0x40).modify 8 fun b => (b &&& 0x3F) ||| 0x80

/-- The text of sixteen bytes. -/
def text (bytes : Bytes) : String :=
  let group := fun start count => Hex.encode ((bytes.drop start).take count)
  "-".intercalate [group 0 4, group 4 2, group 6 2, group 8 2, group 10 6]

/-- A new id. -/
def generate (entropy : Entropy) : String × Entropy :=
  (text (mark (entropy.peek size).reverse), entropy.skip size)

end SealedChat.MessageId
