import SealedChat.Chain
import SealedChat.Settings.Basic
import SealedChat.Wire.Payload

/-!
# Searching the key chain

A sealed message does not say which key of the chain seals it. The receiver tries the keys in a window
around its own index, in order, and takes the first one that opens the message to a payload which names
that very index.
-/

namespace SealedChat

/-! ### Windows -/

/-- How far to search behind an index and from it on. -/
structure Window where
  behind : UInt64
  ahead : UInt64
  deriving DecidableEq, Repr

/-- The greatest index. -/
def greatestIndex : UInt64 := 0xFFFFFFFFFFFFFFFF

namespace Window

/-- The window that settings ask for. -/
def ofSettings (settings : SessionSettings) : Window := ⟨settings.searchBehind, settings.searchAhead⟩

/-- The first index of the window around an index; there is none below zero. -/
def start (window : Window) (current : UInt64) : UInt64 :=
  if current < window.behind then 0 else current - window.behind

/-- The index behind the last one of the window around an index; there is none above the greatest. -/
def stop (window : Window) (current : UInt64) : UInt64 :=
  if greatestIndex - current < window.ahead then greatestIndex else current + window.ahead

theorem toNat_start (window : Window) (current : UInt64) :
    (window.start current).toNat = current.toNat - window.behind.toNat := by
  rw [start]
  split
  · rename_i h
    have := UInt64.lt_iff_toNat_lt.1 h
    simp; omega
  · rename_i h
    have := UInt64.not_lt.1 h
    rw [UInt64.toNat_sub_of_le _ _ this]

theorem toNat_stop (window : Window) (current : UInt64) :
    (window.stop current).toNat = min (2 ^ 64 - 1) (current.toNat + window.ahead.toNat) := by
  have hc : current.toNat < 2 ^ 64 := current.toNat_lt
  have hg : greatestIndex.toNat = 2 ^ 64 - 1 := rfl
  have hs : (greatestIndex - current).toNat = 2 ^ 64 - 1 - current.toNat := by
    rw [UInt64.toNat_sub_of_le _ _ (UInt64.le_iff_toNat_le.2 (by omega)), hg]
  rw [stop]
  split
  · rename_i h
    have := UInt64.lt_iff_toNat_lt.1 h
    omega
  · rename_i h
    have := UInt64.le_iff_toNat_le.1 (UInt64.not_lt.1 h)
    rw [UInt64.toNat_add, Nat.mod_eq_of_lt (by omega)]
    omega

end Window

/-! ### Search -/

/-- What a search finds: a payload and the index whose key seals it. -/
structure Hit where
  index : UInt64
  payload : Payload
  deriving DecidableEq

/-- The payload that the key at an index opens a sealed message to, if it names that index. -/
def openAt? (key : MessageKey) (index : UInt64) (blob : Bytes) : Option Payload :=
  match key.unseal? blob with
  | none => none
  | some plaintext =>
    match Payload.decode plaintext with
    | .ok payload => if payload.chainIndex = index then some payload else none
    | .error _ => none

/-- The first of the next `count` keys of a chain that opens a sealed message. -/
def searchFrom (blob : Bytes) : (count : Nat) → Chain → Option Hit
  | 0, _ => none
  | count + 1, chain =>
    match openAt? chain.next.1 chain.index blob with
    | some payload => some ⟨chain.index, payload⟩
    | none => searchFrom blob count chain.next.2

/-- Searches the window around a chain's index. The walk starts from the chain itself where the window
does not reach behind it, and from the base where it does. -/
def search? (base : ChainBase) (chain : Chain) (window : Window) (blob : Bytes) : Option Hit :=
  let start := window.start chain.index
  let trial := if start < chain.index then Chain.ofBase base else chain
  searchFrom blob ((window.stop chain.index).toNat - start.toNat) (trial.advanceTo start)

end SealedChat
