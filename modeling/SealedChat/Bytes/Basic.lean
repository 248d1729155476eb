/-!
# Byte strings

Byte strings are lists of bytes. Keys, digests and seeds are byte strings of 32 bytes and carry
their length with them.
-/

namespace SealedChat

-- Powers of natural numbers are the core library's, whatever else a module imports.
attribute [instance (high), default_instance 20000] instPowNat

/-- A string of bytes. -/
abbrev Bytes := List UInt8

namespace Bytes

/-! ### Blocks -/

/-- The byte string cut into blocks of `size` bytes, the last of which may be shorter. -/
def blocks (size : Nat) : Bytes → List Bytes
  | [] => []
  | b :: rest => (b :: rest.take (size - 1)) :: blocks size (rest.drop (size - 1))
termination_by bytes => bytes.length
decreasing_by
  rw [List.length_drop, List.length_cons]
  omega

/-- Zero bytes behind a byte string, up to `size` bytes in all. -/
def padTo (size : Nat) (bytes : Bytes) : Bytes :=
  bytes ++ List.replicate (size - bytes.length) 0

/-! ### Combination and comparison -/

/-- Byte by byte exclusive or, as long as the shorter of the two. -/
def xor (a b : Bytes) : Bytes := List.zipWith (· ^^^ ·) a b

@[simp] theorem length_xor (a b : Bytes) : (xor a b).length = min a.length b.length := by
  simp [xor]

/-- Adding the same mask twice gives the byte string back, if the mask covers it. -/
theorem xor_xor_cancel {a mask : Bytes} (h : a.length ≤ mask.length) :
    xor (xor a mask) mask = a := by
  induction a generalizing mask with
  | nil => simp [xor]
  | cons x a ih =>
    cases mask with
    | nil => simp at h
    | cons m mask =>
      have := @ih mask (by simpa using h)
      simp only [xor, List.zipWith_cons_cons, UInt8.xor_assoc, UInt8.xor_self, UInt8.xor_zero] at this ⊢
      rw [this]

/-- Comparison that reads both byte strings to the end: the bits in which they differ are
collected, and none may be left. Byte strings of different lengths are different. -/
def constantTimeEq (a b : Bytes) : Bool :=
  a.length == b.length && (xor a b).foldl (· ||| ·) 0 == 0

private theorem foldl_or_eq_zero (bytes : Bytes) (start : UInt8) :
    bytes.foldl (· ||| ·) start = 0 ↔ start = 0 ∧ ∀ b ∈ bytes, b = 0 := by
  induction bytes generalizing start with
  | nil => simp
  | cons b bytes ih => simp [ih, UInt8.or_eq_zero_iff, and_assoc]

private theorem xor_all_zero {a b : Bytes} (h : a.length = b.length) :
    (∀ x ∈ xor a b, x = 0) ↔ a = b := by
  induction a generalizing b with
  | nil => cases b <;> simp_all [xor]
  | cons x a ih =>
    cases b with
    | nil => simp at h
    | cons y b =>
      have := ih (b := b) (by simpa using h)
      simp only [xor] at this
      simp [xor, this]

/-- The comparison answers equality. -/
theorem constantTimeEq_iff (a b : Bytes) : constantTimeEq a b = true ↔ a = b := by
  by_cases h : a.length = b.length
  · simp [constantTimeEq, h, foldl_or_eq_zero, xor_all_zero]
  · simp only [constantTimeEq, beq_eq_false_iff_ne.2 h, Bool.false_and, Bool.false_eq_true,
      false_iff]
    exact fun he => h (congrArg List.length he)

end Bytes

/-! ### Keys -/

/-- A byte string of 32 bytes: a key, a digest or a seed. -/
structure Key where
  bytes : Bytes
  length_eq : bytes.length = 32
  deriving DecidableEq

namespace Key

/-- The key that a byte string of 32 bytes spells; no other byte string spells one. -/
def ofBytes? (bytes : Bytes) : Option Key :=
  if h : bytes.length = 32 then some ⟨bytes, h⟩ else none

@[simp] theorem ofBytes?_bytes (key : Key) : ofBytes? key.bytes = some key := by
  simp [ofBytes?, key.length_eq]

theorem ofBytes?_eq_some_iff {bytes : Bytes} {key : Key} :
    ofBytes? bytes = some key ↔ key.bytes = bytes := by
  constructor
  · intro h
    simp only [ofBytes?] at h
    split at h <;> simp_all
    exact h ▸ rfl
  · rintro rfl
    exact ofBytes?_bytes key

end Key

end SealedChat
