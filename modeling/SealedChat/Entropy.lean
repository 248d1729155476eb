import SealedChat.Bytes.Basic

/-!
# Random bytes

Random bytes come from a stream that is read once, from its start. How much of it has been read is
part of its state, so that what an action draws can be told from the streams before and after it.
-/

namespace SealedChat

/-- A stream of random bytes, `drawn` of which have been used. -/
structure Entropy where
  byte : Nat → UInt8
  drawn : Nat := 0

namespace Entropy

/-- The next `n` bytes, without using them. -/
def peek (entropy : Entropy) (n : Nat) : Bytes :=
  (List.range n).map fun i => entropy.byte (entropy.drawn + i)

/-- The stream after `n` further bytes have been used. -/
def skip (entropy : Entropy) (n : Nat) : Entropy := { entropy with drawn := entropy.drawn + n }

@[simp] theorem length_peek (entropy : Entropy) (n : Nat) : (entropy.peek n).length = n := by
  simp [peek]

theorem skip_skip (entropy : Entropy) (m n : Nat) : (entropy.skip m).skip n = entropy.skip (m + n) := by
  simp [skip, Nat.add_assoc]

end Entropy

end SealedChat
