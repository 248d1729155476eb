import Mathlib.Data.Nat.Basic
import Mathlib.Order.Basic
import Mathlib.Tactic.Lemma
import SealedChat.Window

/-!
# Places on a chain

A chain that was reached from a base by steps holds the key that the base comes to after as many steps as
its index says (`Chain.Follows`). So a chain and its copies, however they were moved, differ in their index
only, and going on from a chain is the same as walking again from the base.

Indices are 64-bit words. A chain at the greatest index has no next one, and no chain is stepped there.
-/

namespace SealedChat

lemma toNat_greatestIndex : greatestIndex.toNat = 2 ^ 64 - 1 := rfl

lemma toNat_le_greatestIndex (index : UInt64) : index.toNat ≤ 2 ^ 64 - 1 := by
  have := index.toNat_lt
  omega

lemma ne_greatestIndex_iff {index : UInt64} : index ≠ greatestIndex ↔ index.toNat < 2 ^ 64 - 1 := by
  have := toNat_le_greatestIndex index
  rw [Ne, ← UInt64.toNat_inj, toNat_greatestIndex]
  omega

/-- The index behind one that is not the greatest. -/
lemma toNat_add_one {index : UInt64} (h : index.toNat < 2 ^ 64 - 1) : (index + 1).toNat = index.toNat + 1 := by
  rw [UInt64.toNat_add]
  exact Nat.mod_eq_of_lt (by simp; omega)

lemma lt_add_one_iff {i index : UInt64} (h : index ≠ greatestIndex) : i < index + 1 ↔ i ≤ index := by
  rw [UInt64.lt_iff_toNat_lt, UInt64.le_iff_toNat_le, toNat_add_one (ne_greatestIndex_iff.1 h)]
  omega

/-! ### Behind several indices -/

/-- The first index that is not before `start` and is behind all the given ones. -/
def indexBehind (start : Nat) (indices : List UInt64) : Nat :=
  indices.foldr (fun index first => max (index.toNat + 1) first) start

section IndexBehind

variable {start n : Nat} {indices : List UInt64}

lemma indexBehind_le_iff : indexBehind start indices ≤ n ↔ start ≤ n ∧ ∀ index ∈ indices, index.toNat < n := by
  induction indices with
  | nil => simp [indexBehind]
  | cons index indices ih =>
    have hcons : indexBehind start (index :: indices) = max (index.toNat + 1) (indexBehind start indices) := rfl
    rw [hcons, Nat.max_le, ih, List.forall_mem_cons]
    exact and_left_comm

/-- The index does not depend on the order of the given ones, nor on how often one is given. -/
lemma indexBehind_congr {others : List UInt64} (h : ∀ index, index ∈ indices ↔ index ∈ others) :
    indexBehind start indices = indexBehind start others := by
  refine eq_of_forall_ge_iff fun n => ?_
  simp only [indexBehind_le_iff, h]

lemma indexBehind_max (i : UInt64) :
    indexBehind (max start (i.toNat + 1)) indices = indexBehind start (i :: indices) := by
  refine eq_of_forall_ge_iff fun n => ?_
  simp only [indexBehind_le_iff, List.forall_mem_cons, Nat.max_le]
  exact and_assoc

lemma indexBehind_concat (i : UInt64) :
    indexBehind start (indices ++ [i]) = max (indexBehind start indices) (i.toNat + 1) := by
  refine eq_of_forall_ge_iff fun n => ?_
  simp only [indexBehind_le_iff, Nat.max_le, List.forall_mem_append, List.forall_mem_singleton, Nat.succ_le_iff,
    and_assoc]

end IndexBehind

namespace Chain

/-! ### Steps -/

lemma index_skip (n : Nat) (chain : Chain) : (chain.skip n).index = chain.index + UInt64.ofNat n := by
  induction n generalizing chain with
  | zero => simp [skip]
  | succ n ih =>
    rw [skip, ih]
    simp only [next, UInt64.ofNat_add, UInt64.add_assoc]
    rw [UInt64.add_comm 1]
    rfl

lemma toNat_index_skip {n : Nat} {chain : Chain} (h : chain.index.toNat + n < 2 ^ 64) :
    (chain.skip n).index.toNat = chain.index.toNat + n := by
  rw [index_skip, UInt64.toNat_add, UInt64.toNat_ofNat_of_lt' (Nat.lt_of_le_of_lt (Nat.le_add_left n _) h)]
  exact Nat.mod_eq_of_lt h

/-- Stepping to an index leads there, or nowhere if the chain is there already. -/
theorem toNat_index_advanceTo (chain : Chain) (target : UInt64) :
    (chain.advanceTo target).index.toNat = max chain.index.toNat target.toNat := by
  have := chain.index.toNat_lt
  have := target.toNat_lt
  unfold advanceTo
  rw [toNat_index_skip (by omega)]
  omega

end Chain

/-! ### The chain from a base -/

/-- The chain from a base after a number of steps. -/
def ChainBase.chainAt (base : ChainBase) (n : Nat) : Chain := (Chain.ofBase base).skip n

namespace ChainBase

variable (base : ChainBase)

lemma skip_chainAt (m n : Nat) : (base.chainAt m).skip n = base.chainAt (m + n) := by
  unfold chainAt
  rw [Chain.skip_add]

lemma chainAt_succ (n : Nat) : (base.chainAt n).next.2 = base.chainAt (n + 1) := by
  rw [← skip_chainAt]
  rfl

lemma keyAt_eq (n : Nat) : base.keyAt n = (base.chainAt n).next.1 := rfl

lemma toNat_index_chainAt {n : Nat} (h : n < 2 ^ 64) : (base.chainAt n).index.toNat = n := by
  have hzero : (Chain.ofBase base).index.toNat = 0 := rfl
  unfold chainAt
  rw [Chain.toNat_index_skip (by omega), hzero, Nat.zero_add]

end ChainBase

namespace Chain

/-- The chain is that of the base after as many steps as its index says. -/
def Follows (chain : Chain) (base : ChainBase) : Prop := chain = base.chainAt chain.index.toNat

section Follows

variable {base : ChainBase} {chain : Chain}

lemma follows_ofBase (base : ChainBase) : (ofBase base).Follows base := rfl

lemma follows_chainAt {n : Nat} (h : n < 2 ^ 64) : (base.chainAt n).Follows base := by
  unfold Follows
  rw [base.toNat_index_chainAt h]

lemma Follows.next_eq (h : chain.Follows base) : chain.next.2 = base.chainAt (chain.index.toNat + 1) := by
  rw [← base.chainAt_succ, ← h]

lemma Follows.next (h : chain.Follows base) (room : chain.index ≠ greatestIndex) :
    chain.next.2.Follows base := by
  have room := ne_greatestIndex_iff.1 room
  rw [h.next_eq]
  exact follows_chainAt (by omega)

lemma Follows.key_eq (h : chain.Follows base) : chain.next.1 = base.keyAt chain.index.toNat := by
  rw [base.keyAt_eq, ← h]

/-- Going on to an index is walking to the farther of the two places. -/
lemma Follows.advanceTo_eq (h : chain.Follows base) (target : UInt64) :
    chain.advanceTo target = base.chainAt (max chain.index.toNat target.toNat) := by
  unfold Follows at h
  generalize hn : chain.index.toNat = n at *
  rw [advanceTo, hn, h, base.skip_chainAt]
  congr 1
  omega

lemma Follows.advanceTo (h : chain.Follows base) (target : UInt64) : (chain.advanceTo target).Follows base := by
  have := chain.index.toNat_lt
  have := target.toNat_lt
  rw [h.advanceTo_eq]
  exact follows_chainAt (by omega)

/-- **Going on from a chain is walking again from the base**, to any index that is not behind it. -/
theorem Follows.advanceTo_eq_ofBase (h : chain.Follows base) {target : UInt64} (ahead : chain.index ≤ target) :
    chain.advanceTo target = (ofBase base).advanceTo target := by
  have ahead := UInt64.le_iff_toNat_le.1 ahead
  rw [h.advanceTo_eq, (follows_ofBase base).advanceTo_eq]
  congr 1
  simp [ofBase]
  omega

end Follows

/-! ### Walks -/

/-- The chains that are reached from a base. A copy of a chain is the chain itself, so copies need no step
of their own. -/
inductive Reached (base : ChainBase) : Chain → Prop
  | start : Reached base (ofBase base)
  | next {chain : Chain} (before : Reached base chain) (room : chain.index ≠ greatestIndex) :
    Reached base chain.next.2
  | advanceTo {chain : Chain} (before : Reached base chain) (target : UInt64) :
    Reached base (chain.advanceTo target)

theorem Reached.follows {base : ChainBase} {chain : Chain} (h : Reached base chain) : chain.Follows base := by
  induction h with
  | start => exact follows_ofBase base
  | next _ room ih => exact ih.next room
  | advanceTo _ target ih => exact ih.advanceTo target

end Chain

end SealedChat
