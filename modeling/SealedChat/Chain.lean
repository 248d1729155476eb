import SealedChat.Hash.Blake3
import SealedChat.Bytes.Utf8
import SealedChat.Decimal.Natural
import SealedChat.Cipher.Seal

/-!
# Key chains

Every participant of a chat walks the same chain of keys from the same base. A step hashes the chain's
key together with its index; the digest is at once the chain's next key and the key of the message at
the old index. A chain does not go back: earlier keys are found by walking again from the base.
-/

namespace SealedChat

/-- The key at the start of a chat's chain. -/
structure ChainBase where
  key : Key
  deriving DecidableEq

/-- What is shown of a base. -/
def ChainBase.shown : String := "RatchetBase([REDACTED])"

/-- A place on a chain: the key there, and the index of the message key that the next step gives. -/
structure Chain where
  key : Key
  index : UInt64
  deriving DecidableEq

namespace Chain

/-- The start of a chain. -/
def ofBase (base : ChainBase) : Chain := ⟨base.key, 0⟩

/-- The bytes that set the hashes of this chain apart from others. -/
def domain : Bytes := Utf8.encode "rchat-v3-chain-ratchet-forward-secrecy:"

/-- The key after a step from the given key and index. -/
def stepKey (key : Key) (index : UInt64) : Key :=
  Blake3.hash (domain ++ key.bytes ++ LittleEndian.ofUInt64 index)

/-- One step: the message key for the index before it, and the chain after it. -/
def next (chain : Chain) : MessageKey × Chain :=
  let key := stepKey chain.key chain.index
  (⟨key⟩, ⟨key, chain.index + 1⟩)

/-- The chain after the given number of steps. -/
def skip : Nat → Chain → Chain
  | 0, chain => chain
  | n + 1, chain => skip n chain.next.2

/-- Steps forward to an index. A chain that is there or beyond stays where it is. -/
def advanceTo (target : UInt64) (chain : Chain) : Chain :=
  chain.skip (target.toNat - chain.index.toNat)

/-- What is shown of a chain: its index, never its key. -/
def shown (chain : Chain) : String :=
  "RatchetChain \x7b index: " ++ Decimal.ofNat chain.index.toNat ++ ", key: \"[REDACTED]\" \x7d"

theorem skip_add (m n : Nat) (chain : Chain) : chain.skip (m + n) = (chain.skip m).skip n := by
  induction m generalizing chain with
  | zero => simp [skip]
  | succ m ih => rw [Nat.succ_add, skip, skip, ih]

theorem advanceTo_of_le {target : UInt64} {chain : Chain} (h : target ≤ chain.index) :
    chain.advanceTo target = chain := by
  have h := UInt64.le_iff_toNat_le.1 h
  rw [advanceTo, show target.toNat - chain.index.toNat = 0 by omega, skip]

end Chain

/-- The message key at an index of the chain from a base. -/
def ChainBase.keyAt (base : ChainBase) (index : Nat) : MessageKey :=
  ((Chain.ofBase base).skip index).next.1

end SealedChat
